import Mathlib.Data.List.Infix
import MoveSkeleton.Interface.Source
import MoveSkeleton.Proofs.Text.Encoding
import MoveSkeleton.Text.Blank

/-! The words of a source: names, and types, which may hold blanks and commas of their own. -/
namespace MoveSkeleton.Interface

open Text

/-- The marks that stand between the words of a source. -/
def marks : List Char := ['<', '>', '(', ')', '\x7b', '\x7d', ':', ',', ';']

/-- Whether a code point is a blank or a mark. -/
def isSeparator : CodePoint → Bool
  | .char c => isBlank c || marks.contains c
  | .surrogate _ => false

/-- A name as it stands in a source. -/
structure IsWord (t : Text) : Prop where
  nonempty : t.points ≠ []
  plain : ∀ x ∈ t.points, isSeparator x = false

/-- A type as it stands in a source: on one line and without parentheses, its angle brackets well
nested, and its commas inside of them. -/
structure IsType (t : Text) : Prop where
  nonempty : t.points ≠ []
  oneLine : .char '\n' ∉ t.points
  noParentheses : .char '(' ∉ t.points ∧ .char ')' ∉ t.points
  nested : ∀ l, l <+: t.points → l.count (.char '>') ≤ l.count (.char '<')
  closed : t.points.count (.char '>') = t.points.count (.char '<')
  commas : ∀ l, l ++ [.char ','] <+: t.points → l.count (.char '>') < l.count (.char '<')

theorem isWord_iff {t : Text} :
    IsWord t ↔ t.points ≠ [] ∧ ∀ x ∈ t.points, isSeparator x = false :=
  ⟨fun h => ⟨h.nonempty, h.plain⟩, fun h => ⟨h.1, h.2⟩⟩

instance (t : Text) : Decidable (IsWord t) :=
  decidable_of_iff _ isWord_iff.symm

/-- Beginnings of a type are finitely many, so that they can be looked through. -/
theorem isType_iff {t : Text} :
    IsType t ↔ t.points ≠ [] ∧ .char '\n' ∉ t.points ∧
      (.char '(' ∉ t.points ∧ .char ')' ∉ t.points) ∧
      (∀ l ∈ t.points.inits, l.count (.char '>') ≤ l.count (.char '<')) ∧
      t.points.count (.char '>') = t.points.count (.char '<') ∧
      ∀ l ∈ t.points.inits, l ++ [.char ','] ∈ t.points.inits →
        l.count (.char '>') < l.count (.char '<') := by
  simp only [List.mem_inits]
  constructor
  · rintro ⟨hne, hline, hparentheses, hnested, hclosed, hcommas⟩
    exact ⟨hne, hline, hparentheses, hnested, hclosed, fun l _ => hcommas l⟩
  · rintro ⟨hne, hline, hparentheses, hnested, hclosed, hcommas⟩
    exact ⟨hne, hline, hparentheses, hnested, hclosed, fun l hl =>
      hcommas l ((List.prefix_append l _).trans hl) hl⟩

instance (t : Text) : Decidable (IsType t) :=
  decidable_of_iff _ isType_iff.symm

example : IsType "0x1::pair::Pair<u64, vector<u8>>" ∧ ¬ IsType "u64, u8" := by decide

/-- What ends a word. -/
abbrev Separated (r : List CodePoint) : Prop :=
  StopsAt (isSeparator · = true) r

theorem apart_words : Apart (fun l => IsWord ⟨l⟩) (isSeparator · = true) :=
  apart_of_notMem fun _ a hu ha hm => by
    have hplain := hu.plain a hm
    simp only [ha, Bool.true_eq_false] at hplain

/-- The marks that a type may hold only in its place, or not at all. -/
def typeMarks : List CodePoint :=
  [.char '<', .char '>', .char ',', .char '(', .char ')', .char '\n']

/-- What ends a type among others. -/
def endsType (x : CodePoint) : Prop :=
  x = .char ',' ∨ x = .char ')'

theorem apart_types : Apart (fun l => IsType ⟨l⟩) endsType := by
  intro u v a hu hv ha hp
  rcases ha with rfl | rfl
  · -- Outside of all angle brackets there is no comma.
    have hcomma := hv.commas u hp
    have hclosed := hu.closed
    dsimp only at hclosed
    omega
  · exact hv.noParentheses.2 (hp.subset (by simp))

theorem IsType.cons {l : List CodePoint} (h : IsType ⟨l⟩) :
    ∃ x rest, l = x :: rest ∧ x ≠ .char ')' := by
  obtain ⟨x, rest, rfl⟩ := List.exists_cons_of_ne_nil h.nonempty
  refine ⟨x, rest, rfl, ?_⟩
  rintro rfl
  exact h.noParentheses.2 List.mem_cons_self

/-- What is neither a bracket, a comma nor a line feed may stand before a type. -/
theorem IsType.append {p l : List CodePoint} (hp : ∀ x ∈ p, x ∉ typeMarks) (h : IsType ⟨l⟩) :
    IsType ⟨p ++ l⟩ := by
  have hmem : ∀ x ∈ typeMarks, x ∉ p := fun x hx hm => hp x hm hx
  have hopen : p.count (.char '<') = 0 := List.count_eq_zero.mpr (hmem _ (by decide))
  have hshut : p.count (.char '>') = 0 := List.count_eq_zero.mpr (hmem _ (by decide))
  obtain ⟨hne, hline, ⟨hleft, hright⟩, hnested, hclosed, hcommas⟩ := h
  -- A beginning of the whole ends before the type, or goes on with a beginning of the type.
  refine ⟨by simp [hne], ?_, ⟨?_, ?_⟩, fun k hk => ?_, ?_, fun k hk => ?_⟩
  · exact List.mem_append.not.mpr (not_or.mpr ⟨hmem _ (by decide), hline⟩)
  · exact List.mem_append.not.mpr (not_or.mpr ⟨hmem _ (by decide), hleft⟩)
  · exact List.mem_append.not.mpr (not_or.mpr ⟨hmem _ (by decide), hright⟩)
  · rcases List.prefix_or_prefix_of_prefix hk (List.prefix_append p l) with hkp | ⟨k, rfl⟩
    · have := hkp.sublist.count_le (.char '>')
      omega
    · have := hnested k ((List.prefix_append_right_inj p).mp hk)
      simpa [hopen, hshut] using this
  · simpa [hopen, hshut] using hclosed
  · rcases List.prefix_or_prefix_of_prefix hk (List.prefix_append p l) with hkp | ⟨q, hq⟩
    · exact absurd (hkp.subset (by simp)) (hmem (.char ',') (by decide))
    · rcases List.eq_nil_or_concat q with rfl | ⟨q, x, rfl⟩
      · exact absurd (by simpa using congrArg (CodePoint.char ',' ∈ ·) hq.symm) (hmem _ (by decide))
      · rw [List.concat_eq_append, ← List.append_assoc] at hq
        obtain ⟨rfl, hx⟩ := List.append_inj' hq.symm rfl
        obtain rfl := List.singleton_inj.mp hx
        rw [List.append_assoc] at hk
        have := hcommas q ((List.prefix_append_right_inj p).mp hk)
        simpa [hopen, hshut] using this

theorem isSeparator_of_digit {c : Char} (h : 48 ≤ c.toNat ∧ c.toNat ≤ 57) :
    isSeparator (.char c) = false := by
  have hblank : isBlank c = false := by
    simp only [isBlank, blankRanges, List.any_cons, List.any_nil, Bool.or_false,
      Bool.or_eq_false_iff, decide_eq_false_iff_not]
    omega
  have hmarks : c ∉ marks := by
    intro hm
    simp only [marks, List.mem_cons, List.not_mem_nil, or_false] at hm
    rcases hm with rfl | rfl | rfl | rfl | rfl | rfl | rfl | rfl | rfl <;> simp at h
  simp [isSeparator, hblank, hmarks]

/-- A numbered word, as the source names type parameters. -/
theorem isWord_numbered (i : Nat) : IsWord (s!"T{i}" : String) := by
  have hpoints : (Text.ofString s!"T{i}").points =
      .char 'T' :: (Text.ofString (toString i)).points := by
    simp only [points_ofString, String.toList_append, List.map_append]
    rfl
  refine ⟨by simp, ?_⟩
  rw [hpoints, List.forall_mem_cons]
  refine ⟨by decide, fun x hx => ?_⟩
  obtain ⟨c, rfl, hc⟩ := digit_of_mem_numeral hx
  exact isSeparator_of_digit hc

/-- A type with a numbered name before it, as the source lists parameters. -/
theorem IsType.numbered {t : Text} (h : IsType t) (i : Nat) : IsType (s!"arg{i}: " ++ t) := by
  have hpoints : (Text.ofString s!"arg{i}: ").points = [.char 'a', .char 'r', .char 'g'] ++
      (Text.ofString (toString i)).points ++ [.char ':', .char ' '] := by
    simp only [points_ofString, String.toList_append, List.map_append]
    rfl
  refine IsType.append (p := (Text.ofString s!"arg{i}: ").points) (fun x hx => ?_) h
  rw [hpoints, List.mem_append, List.mem_append] at hx
  rcases hx with (hx | hx) | hx
  · revert x
    decide
  · obtain ⟨c, rfl, hc⟩ := digit_of_mem_numeral hx
    intro hm
    have hrange : ∀ x ∈ typeMarks, x.value < 48 ∨ 57 < x.value := by decide
    have := hrange _ hm
    simp only [CodePoint.value] at this
    omega
  · revert x
    decide

end MoveSkeleton.Interface
