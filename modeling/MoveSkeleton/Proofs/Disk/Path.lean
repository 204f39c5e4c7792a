import Mathlib.Data.List.Basic
import MoveSkeleton.Disk.Basic
import MoveSkeleton.Proofs.Text.Encoding

/-! Paths part by part: which of them a disk can hold, how long they are, and what text names
them. -/
namespace MoveSkeleton

namespace Path

variable {p : Path} {t u : Text} {parts more : List Text}

/-- The path that the parts lead to from another one. -/
def below (p : Path) (parts : List Text) : Path :=
  { p with parts := p.parts ++ parts }

@[simp] theorem parts_below : (p.below parts).parts = p.parts ++ parts := rfl

@[simp] theorem anchor_below : (p.below parts).anchor = p.anchor := rfl

@[simp] theorem below_nil : p.below [] = p := by
  simp [below]

theorem below_below : (p.below parts).below more = p.below (parts ++ more) := by
  simp [below]

/-- A text that is one part of a path. -/
def IsPart (t : Text) : Prop :=
  t ≠ "" ∧ t ≠ "." ∧ ∀ x ∈ t.points, x ≠ .char '/'

instance : DecidablePred IsPart :=
  fun t => inferInstanceAs (Decidable (t ≠ "" ∧ t ≠ "." ∧ ∀ x ∈ t.points, x ≠ .char '/'))

/-- One part that does not lead up. -/
def IsName (t : Text) : Prop :=
  IsPart t ∧ t ≠ ".."

instance : DecidablePred IsName :=
  fun t => inferInstanceAs (Decidable (IsPart t ∧ t ≠ ".."))

private theorem beq_slash (h : IsPart t) : ∀ x ∈ t.points, (x == CodePoint.char '/') = false :=
  fun x hx => beq_eq_false_iff_ne.mpr (h.2.2 x hx)

/-- What begins with a part begins where one stands. -/
private theorem anchorOf_append (h : IsPart t) (rest : List CodePoint) :
    anchorOf (t.points ++ rest) = .here := by
  obtain ⟨points⟩ := t
  cases points with
  | nil => exact absurd rfl h.1
  | cons x points =>
    have hx := beq_slash h x List.mem_cons_self
    unfold anchorOf
    rw [List.cons_append, List.takeWhile_cons_of_neg (by simp [hx])]
    rfl

theorem ofText_of_isPart (h : IsPart t) : ofText t = ⟨.here, [t]⟩ := by
  have ha : anchorOf t.points = .here := by
    rw [← List.append_nil t.points]
    exact anchorOf_append h []
  simp [ofText, ha, Text.sections_of_forall (beq_slash h), h.1, h.2.1]

theorem join_of_isPart (h : IsPart t) : p.join t = p.below [t] := by
  simp [join, ofText_of_isPart h, below]

theorem ofText_append_slash (ht : IsPart t) (hu : IsPart u) :
    ofText (t ++ "/" ++ u) = ⟨.here, [t, u]⟩ := by
  have happ : (t ++ "/" ++ u).points = t.points ++ CodePoint.char '/' :: u.points := by simp
  have hs : Text.sections (· == .char '/') (t ++ "/" ++ u).points = [t.points, u.points] := by
    rw [happ, Text.sections_append_cons (beq_slash ht) (by simp),
      Text.sections_of_forall (beq_slash hu)]
  unfold ofText
  rw [hs, happ, anchorOf_append ht]
  simp [ht.1, ht.2.1, hu.1, hu.2.1]

/-- Two parts lead from a path as they lead one after the other. -/
theorem join_append_slash (ht : IsPart t) (hu : IsPart u) :
    p.join (t ++ "/" ++ u) = p.below [t, u] := by
  simp [join, ofText_append_slash ht hu, below]

/-- A code point that a name on a disk can hold: one that can be encoded, and not zero. -/
def Storable (x : CodePoint) : Prop :=
  (x.isSurrogate = true → isByte x = true) ∧ x ≠ .char '\x00'

instance : DecidablePred Storable :=
  fun x => inferInstanceAs (Decidable ((x.isSurrogate = true → isByte x = true) ∧ x ≠ .char '\x00'))

/-- What a disk can hold is settled part by part. -/
theorem ofPath?_eq_none_iff :
    DiskFault.ofPath? p = none ↔ ∀ t ∈ p.parts, ∀ x ∈ t.points, Storable x := by
  have hall : DiskFault.ofPath? p = none ↔ ∀ x ∈ p.text.points, Storable x := by
    have hf : Text.EncodingFault.findFrom .surrogate isByte 0 p.text.points = none ↔
        ∀ x ∈ p.text.points, x.isSurrogate = true → isByte x = true :=
      Text.EncodingFault.findFrom_eq_none_iff
    unfold DiskFault.ofPath? Storable
    cases h : Text.EncodingFault.findFrom .surrogate isByte 0 p.text.points with
    | some fault =>
      rw [h] at hf
      simp only [reduceCtorEq, false_iff] at hf ⊢
      exact fun hs => hf fun x hx => (hs x hx).1
    | none =>
      have hs := hf.mp h
      simp only [ite_eq_right_iff, reduceCtorEq, imp_false, List.contains_iff_mem]
      constructor
      · exact fun h0 x hx => ⟨hs x hx, fun he => h0 (he ▸ hx)⟩
      · exact fun h0 hx => (h0 _ hx).2 rfl
  have hslash : ∀ x ∈ (Text.ofString "/").points, Storable x := by decide
  have htext : (∀ x ∈ p.text.points, Storable x) ↔
      ∀ x ∈ (Text.intercalate "/" p.parts).points, Storable x := by
    unfold text
    split
    · next hp =>
      rw [hp]
      exact iff_of_true (by decide) (by decide)
    · rw [Text.points_append, List.forall_mem_append]
      refine and_iff_right ?_
      cases p.anchor <;> decide
  rw [hall, htext, Text.forall_points_intercalate hslash]

theorem ofPath?_below : DiskFault.ofPath? (p.below parts) = none ↔
    DiskFault.ofPath? p = none ∧ ∀ t ∈ parts, ∀ x ∈ t.points, Storable x := by
  simp only [ofPath?_eq_none_iff, parts_below, List.forall_mem_append]

/-- A storable text leads from a path that a disk can hold to another one. -/
theorem ofPath?_join (hp : DiskFault.ofPath? p = none)
    (ht : ∀ x ∈ t.points, Storable x) : DiskFault.ofPath? (p.join t) = none := by
  rw [ofPath?_eq_none_iff] at hp ⊢
  have hparts : ∀ part ∈ (ofText t).parts, ∀ x ∈ part.points, Storable x := by
    intro part hpart x hx
    obtain ⟨points, hpoints, rfl⟩ := List.mem_map.mp (List.mem_filter.mp hpart).1
    exact ht x (Text.of_mem_sections hpoints hx).1
  unfold join
  dsimp only
  split
  · exact List.forall_mem_append.mpr ⟨hp, hparts⟩
  · exact hparts

private theorem foldl_add {α : Type} (f : α → Nat) (l : List α) (n : Nat) :
    l.foldl (fun n x => n + f x) n = n + l.foldl (fun n x => n + f x) 0 := by
  induction l generalizing n with
  | nil => rfl
  | cons x l ih =>
    rw [List.foldl_cons, List.foldl_cons, ih, ih (0 + f x)]
    omega

theorem size_append (t u : Text) : size (t ++ u) = size t + size u := by
  unfold size
  rw [Text.points_append, List.foldl_append]
  exact foldl_add ..

theorem text_of_parts (h : p.parts ≠ []) :
    p.text = p.anchor.text ++ Text.intercalate "/" p.parts := by
  unfold text
  split
  · next hp => exact absurd hp h
  · rfl

/-- A path is no longer than those below it, if a disk takes them at all. -/
theorem size_text_le_of_below (h : size (p.below parts).text ≤ Disk.maxPath) :
    size p.text ≤ Disk.maxPath := by
  by_cases hparts : parts = []
  · simpa [hparts, below] using h
  by_cases hp : p.parts = []
  · cases ha : p.anchor <;> simp only [text, ha, hp] <;> decide
  · rw [text_of_parts (by simp [hp]), parts_below, Text.intercalate_append hp hparts] at h
    rw [text_of_parts hp]
    simp only [size_append, anchor_below] at h ⊢
    omega

/-- The path and each of its parts are short enough for a disk. -/
def Short (p : Path) : Prop :=
  size p.text ≤ Disk.maxPath ∧ ∀ t ∈ p.parts, size t ≤ Disk.maxName

instance : DecidablePred Short :=
  fun p => inferInstanceAs (Decidable (size p.text ≤ Disk.maxPath ∧
    ∀ t ∈ p.parts, size t ≤ Disk.maxName))

/-- Of two names in one folder the shorter one makes the shorter path. -/
theorem Short.sibling (h : (p.below [t]).Short) (hu : size u ≤ size t) : (p.below [u]).Short := by
  obtain ⟨n, hn⟩ : ∃ n, ∀ t : Text, size (p.below [t]).text = n + size t := by
    by_cases hp : p.parts = []
    · refine ⟨size p.anchor.text, fun t => ?_⟩
      cases ha : p.anchor <;> simp [text, hp, ha, Text.intercalate, size_append]
    · refine ⟨size (p.anchor.text ++ Text.intercalate "/" p.parts ++ "/"), fun t => ?_⟩
      rw [text_of_parts (by simp), parts_below, Text.intercalate_append hp (by simp)]
      simp only [size_append, anchor_below, Text.intercalate]
      omega
  refine ⟨?_, fun part hpart => ?_⟩
  · have ht := h.1
    rw [hn] at ht ⊢
    omega
  · rcases List.mem_append.mp hpart with hpart | hpart
    · exact h.2 part (List.mem_append_left _ hpart)
    · rw [List.mem_singleton.mp hpart]
      exact Nat.le_trans hu (h.2 t (by simp))

theorem Short.of_below (h : (p.below parts).Short) : p.Short :=
  ⟨size_text_le_of_below h.1, fun t ht => h.2 t (List.mem_append_left _ ht)⟩

end Path

end MoveSkeleton
