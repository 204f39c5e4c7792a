import Mathlib.Data.List.Infix
import MoveSkeleton.Proofs.Text.Apart
import MoveSkeleton.Text.Lines

/-! Texts cut at what separates their parts, or before the first of their marks. -/
namespace MoveSkeleton.Text

section
variable {α : Type} {p : α → Bool} {a b : List α} {x : α}

theorem sections_of_forall (h : ∀ x ∈ a, p x = false) : sections p a = [a] := by
  induction a with
  | nil => rfl
  | cons x a ih =>
    rw [List.forall_mem_cons] at h
    simp [sections, h.1, ih h.2]

theorem sections_ne_nil (p : α → Bool) (a : List α) : sections p a ≠ [] := by
  cases a with
  | nil => exact List.cons_ne_nil _ _
  | cons x a =>
    rw [sections]
    split
    · exact List.cons_ne_nil _ _
    · split <;> exact List.cons_ne_nil _ _

/-- What stands before a separator is cut without regard to what follows it. -/
theorem sections_append (hx : p x = true) :
    sections p (a ++ x :: b) = sections p a ++ sections p b := by
  induction a with
  | nil => simp [sections, hx]
  | cons y a ih =>
    obtain ⟨first, others, hsections⟩ := List.exists_cons_of_ne_nil (sections_ne_nil p a)
    by_cases hy : p y = true <;> simp [sections, hy, ih, hsections]

theorem sections_append_cons (h : ∀ x ∈ a, p x = false) (hx : p x = true) :
    sections p (a ++ x :: b) = a :: sections p b := by
  rw [sections_append hx, sections_of_forall h]
  rfl

end

section
variable {p : CodePoint → Bool} {points rest : List CodePoint} {x : CodePoint}

/-- A section holds nothing that the whole does not, and nothing that separates. -/
theorem of_mem_sections {piece : List CodePoint} (hs : piece ∈ sections p points)
    (hx : x ∈ piece) : x ∈ points ∧ p x = false := by
  induction points generalizing piece with
  | nil => simp_all [sections]
  | cons y points ih =>
    unfold sections at hs
    split at hs
    · rcases List.mem_cons.mp hs with rfl | hs
      · cases hx
      · exact (ih hs hx).imp_left (List.mem_cons_of_mem _)
    · next hy =>
      have hy : y ∈ y :: points ∧ p y = false := ⟨List.mem_cons_self, by simpa using hy⟩
      split at hs
      · rw [List.mem_singleton.mp hs, List.mem_singleton] at hx
        exact hx ▸ hy
      · next first others hrest =>
        rcases List.mem_cons.mp hs with rfl | hs
        · rcases List.mem_cons.mp hx with rfl | hx
          · exact hy
          · exact (ih (hrest ▸ List.mem_cons_self) hx).imp_left (List.mem_cons_of_mem _)
        · exact (ih (hrest ▸ List.mem_cons_of_mem _ hs) hx).imp_left (List.mem_cons_of_mem _)

/-- Parts with a separator between them are cut into what they were. -/
theorem sections_intercalate {separator : Text} (hseparator : separator.points = [x])
    (hx : p x = true) {ts : List Text} (hne : ts ≠ [])
    (h : ∀ t ∈ ts, ∀ y ∈ t.points, p y = false) :
    sections p (intercalate separator ts).points = ts.map Text.points := by
  induction ts with
  | nil => exact absurd rfl hne
  | cons t ts ih =>
    rw [List.forall_mem_cons] at h
    cases ts with
    | nil => exact sections_of_forall h.1
    | cons u ts =>
      have hcons : (intercalate separator (t :: u :: ts)).points =
          t.points ++ x :: (intercalate separator (u :: ts)).points := by
        simp [intercalate, hseparator]
      rw [hcons, sections_append_cons h.1 hx, ih (by simp) h.2]
      rfl

end

section
variable {s t : Text}

theorem intercalate_append {a b : List Text} (ha : a ≠ []) (hb : b ≠ []) :
    intercalate s (a ++ b) = intercalate s a ++ (s ++ intercalate s b) := by
  have assoc : ∀ u v w : Text, u ++ v ++ w = u ++ (v ++ w) := fun _ _ _ =>
    ext_points (List.append_assoc ..)
  induction a with
  | nil => exact absurd rfl ha
  | cons t a ih =>
    cases a with
    | nil =>
      obtain ⟨u, b, rfl⟩ := List.exists_cons_of_ne_nil hb
      exact assoc ..
    | cons u a =>
      have hcons : ∀ c : List Text, intercalate s (t :: u :: c) =
          t ++ s ++ intercalate s (u :: c) := fun _ => rfl
      rw [List.cons_append, List.cons_append, hcons, ← List.cons_append, ih (by simp), hcons,
        assoc, assoc, assoc]

theorem forall_points_intercalate {P : CodePoint → Prop} (hs : ∀ x ∈ s.points, P x)
    {a : List Text} :
    (∀ x ∈ (intercalate s a).points, P x) ↔ ∀ t ∈ a, ∀ x ∈ t.points, P x := by
  induction a with
  | nil => simp [intercalate]
  | cons t a ih =>
    cases a with
    | nil => simp [intercalate]
    | cons u a =>
      have hcons : intercalate s (t :: u :: a) = t ++ s ++ intercalate s (u :: a) := rfl
      rw [hcons, points_append, points_append, List.forall_mem_append, List.forall_mem_append, ih,
        and_iff_left hs]
      simp only [List.forall_mem_cons]

end

/-- The lines of a text, with a line feed between one and the next. -/
def feedLines (t : Text) : List Text :=
  (sections (· == .char '\n') t.points).map Text.mk

/-- A text on one line. -/
def OneLine (t : Text) : Prop :=
  .char '\n' ∉ t.points

instance (t : Text) : Decidable t.OneLine :=
  inferInstanceAs (Decidable (CodePoint.char '\n' ∉ t.points))

theorem oneLine_append {s t : Text} : (s ++ t).OneLine ↔ s.OneLine ∧ t.OneLine := by
  simp [OneLine, not_or]

theorem oneLine_of_mem_feedLines {t line : Text} (h : line ∈ t.feedLines) : line.OneLine := by
  obtain ⟨piece, hpiece, rfl⟩ := List.mem_map.mp h
  intro hx
  have hfeed := (of_mem_sections hpiece hx).2
  simp at hfeed

theorem feedLines_intercalate {ts : List Text} (hne : ts ≠ []) (h : ∀ t ∈ ts, t.OneLine) :
    (intercalate "\n" ts).feedLines = ts := by
  have hcut : sections (· == .char '\n') (intercalate "\n" ts).points = ts.map Text.points := by
    refine sections_intercalate (x := .char '\n') rfl (by decide) hne fun t ht y hy => ?_
    exact beq_eq_false_iff_ne.mpr fun he => h t ht (he ▸ hy)
  rw [feedLines, hcut, List.map_map]
  exact List.map_id ts

/-- Lines that are not empty are read back from what joins them, if there are none as well. -/
theorem intercalate_lines_inj {ts us : List Text} (ht : ∀ t ∈ ts, t.OneLine ∧ t ≠ "")
    (hu : ∀ t ∈ us, t.OneLine ∧ t ≠ "") (h : intercalate "\n" ts = intercalate "\n" us) :
    ts = us := by
  have hlines : ∀ {ts : List Text}, ts ≠ [] → (∀ t ∈ ts, t.OneLine ∧ t ≠ "") →
      (intercalate "\n" ts).feedLines = ts := fun hne ht =>
    feedLines_intercalate hne fun t h => (ht t h).1
  have hempty : ∀ {ts : List Text}, ts ≠ [] → (∀ t ∈ ts, t.OneLine ∧ t ≠ "") →
      intercalate "\n" ts ≠ "" := by
    intro ts hne ht he
    have hone : ts = [""] := by
      rw [← hlines hne ht, he]
      rfl
    exact (ht "" (hone ▸ List.mem_singleton.mpr rfl)).2 rfl
  by_cases hts : ts = []
  · by_cases hus : us = []
    · rw [hts, hus]
    · exact absurd (by rw [← h, hts]; rfl) (hempty hus hu)
  · by_cases hus : us = []
    · exact absurd (by rw [h, hus]; rfl) (hempty hts ht)
    · rw [← hlines hts ht, h, hlines hus hu]

section
variable {mark l r : List CodePoint}

/-- What stands before the first of the marks, or all if there is none. -/
def upTo (mark : List CodePoint) : List CodePoint → List CodePoint
  | [] => []
  | x :: rest => if mark.isPrefixOf (x :: rest) then [] else x :: upTo mark rest

theorem upTo_eq_self (h : ¬ mark <:+: l) : upTo mark l = l := by
  induction l with
  | nil => rfl
  | cons x l ih =>
    have hprefix : mark.isPrefixOf (x :: l) ≠ true := fun hp =>
      h (List.isPrefixOf_iff_prefix.mp hp).isInfix
    rw [upTo, if_neg hprefix, ih fun hi => h (hi.trans (List.suffix_cons x l).isInfix)]

/-- A mark of which no end is a beginning as well does not reach into another one. -/
theorem prefix_append_mark (hmark : ∀ k ∈ mark.tails, k <+: mark → k = [] ∨ k = mark)
    (hl : l ≠ []) (h : mark <+: l ++ (mark ++ r)) : mark <+: l := by
  rcases List.prefix_or_prefix_of_prefix h (List.prefix_append ..) with hp | ⟨k, hk⟩
  · exact hp
  -- The mark would begin with the rest `k` of itself.
  have hend : k ∈ mark.tails := (List.mem_tails ..).mpr ⟨l, hk⟩
  have hbegin : k <+: mark := by
    have hrest : l ++ k <+: l ++ (mark ++ r) := hk ▸ h
    refine List.prefix_of_prefix_length_le ((List.prefix_append_right_inj l).mp hrest)
      (List.prefix_append ..) ?_
    rw [← hk, List.length_append]
    exact Nat.le_add_left ..
  rcases hmark k hend hbegin with rfl | rfl
  · rw [← hk, List.append_nil]
  · exact absurd (List.append_left_eq_self.mp hk) hl

/-- What stands before the first mark does not depend on what follows one. -/
theorem upTo_append_mark (hmark : ∀ k ∈ mark.tails, k <+: mark → k = [] ∨ k = mark)
    (hne : mark ≠ []) : upTo mark (l ++ (mark ++ r)) = upTo mark l := by
  induction l with
  | nil =>
    obtain ⟨x, rest, rfl⟩ := List.exists_cons_of_ne_nil hne
    have hprefix : (x :: rest).isPrefixOf (x :: (rest ++ r)) = true :=
      List.isPrefixOf_iff_prefix.mpr (List.prefix_append (x :: rest) r)
    rw [List.nil_append, List.cons_append, upTo.eq_def (x :: rest) []]
    exact if_pos hprefix
  | cons x l ih =>
    have hiff : mark.isPrefixOf (x :: (l ++ (mark ++ r))) = mark.isPrefixOf (x :: l) := by
      rw [Bool.eq_iff_iff, List.isPrefixOf_iff_prefix, List.isPrefixOf_iff_prefix]
      exact ⟨fun h => prefix_append_mark hmark (l := x :: l) (by simp) h,
        fun h => h.trans (List.prefix_append (x :: l) _)⟩
    rw [List.cons_append, upTo, upTo, hiff, ih]

end

end MoveSkeleton.Text
