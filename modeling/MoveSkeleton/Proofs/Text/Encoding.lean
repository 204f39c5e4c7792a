import Mathlib.Data.List.Basic
import MoveSkeleton.Proofs.Text.Sections
import MoveSkeleton.Text.Bytes

/-! Which texts can be encoded: those without a code point that the encoding does not have. -/
namespace MoveSkeleton

/-- The code point is a character, which can be written to a file. -/
def CodePoint.IsEncodable (p : CodePoint) : Prop :=
  p.isSurrogate = false

theorem CodePoint.IsEncodable.char (c : Char) : (CodePoint.char c).IsEncodable := rfl

namespace Text

variable {lapse : EncodingLapse} {spared : CodePoint → Bool} {n : Nat} {ps : List CodePoint}
  {s t : Text} {ts : List Text}

theorem EncodingFault.findFrom_eq_none_iff : EncodingFault.findFrom lapse spared n ps = none ↔
    ∀ x ∈ ps, lapse.covers x = true → spared x = true := by
  induction ps generalizing n with
  | nil => simp [EncodingFault.findFrom]
  | cons x ps ih =>
    rw [EncodingFault.findFrom, List.forall_mem_cons, ← ih (n := n + 1)]
    cases hx : lapse.covers x <;> cases hs : spared x <;> simp

/-- The text has no code point that cannot be written to a file. -/
def IsEncodable (t : Text) : Prop :=
  t.toUtf8.toOption.isSome = true

instance : DecidablePred IsEncodable :=
  fun t => inferInstanceAs (Decidable (t.toUtf8.toOption.isSome = true))

theorem IsEncodable.toUtf8 (h : t.IsEncodable) : ∃ content, t.toUtf8 = .ok content := by
  unfold IsEncodable at h
  cases ht : t.toUtf8 with
  | ok content => exact ⟨content, rfl⟩
  | error fault =>
    rw [ht] at h
    cases h

theorem isEncodable_iff : t.IsEncodable ↔ ∀ x ∈ t.points, x.IsEncodable := by
  have hfind : EncodingFault.find .surrogate t = none ↔ ∀ x ∈ t.points, x.IsEncodable := by
    rw [EncodingFault.find, EncodingFault.findFrom_eq_none_iff]
    simp [EncodingLapse.covers, CodePoint.IsEncodable]
  rw [← hfind, IsEncodable, Text.toUtf8]
  cases EncodingFault.find .surrogate t <;> simp [Except.toOption]

theorem isEncodable_ofString (s : String) : (ofString s).IsEncodable := by
  refine isEncodable_iff.mpr fun x hx => ?_
  obtain ⟨c, -, rfl⟩ := List.mem_map.mp hx
  exact .char c

theorem IsEncodable.append (hs : s.IsEncodable) (ht : t.IsEncodable) : (s ++ t).IsEncodable := by
  rw [isEncodable_iff] at hs ht ⊢
  exact List.forall_mem_append.mpr ⟨hs, ht⟩

theorem IsEncodable.intercalate (hs : s.IsEncodable) (h : ∀ t ∈ ts, t.IsEncodable) :
    (Text.intercalate s ts).IsEncodable := by
  rw [isEncodable_iff] at hs ⊢
  exact (forall_points_intercalate hs).mpr fun t ht => isEncodable_iff.mp (h t ht)

/-- A number is written in digits. -/
theorem digit_of_mem_numeral {i : Nat} {x : CodePoint}
    (hx : x ∈ (ofString (toString i)).points) :
    ∃ c : Char, x = .char c ∧ 48 ≤ c.toNat ∧ c.toNat ≤ 57 := by
  obtain ⟨c, hc, rfl⟩ := List.mem_map.mp (by simpa using hx)
  have hdigit := Nat.isDigit_of_mem_toDigits (by decide) (by decide) hc
  rw [Char.isDigit_iff_toNat] at hdigit
  exact ⟨c, rfl, hdigit⟩

end Text

end MoveSkeleton
