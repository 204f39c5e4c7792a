import MoveSkeleton.Text.Composite
import MoveSkeleton.Text.Mark

/-! Composed text: marks in order, and one character wherever one stands for two. -/
namespace MoveSkeleton.Text

/-- The first syllable of Hangul. Syllables go by their leading consonant, then by their vowel, then
by their trailing consonant or its absence. -/
def firstSyllable : Nat := 0xac00

def firstLeading : Nat := 0x1100

def firstVowel : Nat := 0x1161

def beforeTrailing : Nat := 0x11a7

def leadingCount : Nat := 19

def vowelCount : Nat := 21

def trailingCount : Nat := 28

def syllableParts? (n : Nat) : Option (Nat × Nat) :=
  let i := n - firstSyllable
  if n < firstSyllable ∨ leadingCount * vowelCount * trailingCount ≤ i then none
  else if i % trailingCount = 0 then
    let j := i / trailingCount
    some (firstLeading + j / vowelCount, firstVowel + j % vowelCount)
  else some (n - i % trailingCount, beforeTrailing + i % trailingCount)

def syllable? (m n : Nat) : Option Nat :=
  let lead := m - firstLeading
  let vowel := n - firstVowel
  let trail := n - beforeTrailing
  let i := m - firstSyllable
  if firstLeading ≤ m ∧ lead < leadingCount ∧ firstVowel ≤ n ∧ vowel < vowelCount then
    some (firstSyllable + (lead * vowelCount + vowel) * trailingCount)
  else if firstSyllable ≤ m ∧ i < leadingCount * vowelCount * trailingCount ∧
      i % trailingCount = 0 ∧ beforeTrailing < n ∧ trail < trailingCount then
    some (m + trail)
  else none

def parts? (p : CodePoint) : Option (CodePoint × CodePoint) :=
  let found := (composites.find? (·.1 == p.value)).map (·.2)
  ((syllableParts? p.value).or found).map fun (m, n) => (.ofNat m, .ofNat n)

def composite? (p q : CodePoint) : Option CodePoint :=
  let found := (composites.find? (·.2 == (p.value, q.value))).map (·.1)
  ((syllable? p.value q.value).or found).map .ofNat

/-- A character taken apart at most `depth` times. Only the first of two parts has parts itself. -/
def decomposed : (depth : Nat) → CodePoint → List CodePoint
  | 0, p => [p]
  | depth + 1, p =>
    match parts? p with
    | some (q, mark) => decomposed depth q ++ [mark]
    | none => [p]

def maxDepth : Nat := 3

/-- Puts a code point after others, of which the last comes first, and before those of a higher
class that it follows at once. -/
def insertMark (reversed : List CodePoint) (p : CodePoint) : List CodePoint :=
  match reversed with
  | [] => [p]
  | q :: rest =>
    if combiningClass p ≠ 0 ∧ combiningClass p < combiningClass q then q :: insertMark rest p
    else p :: q :: rest

def ordered (ps : List CodePoint) : List CodePoint :=
  (ps.foldl insertMark []).reverse

structure Composition where
  done : List CodePoint
  base : Option CodePoint
  marks : List CodePoint

def Composition.all (s : Composition) : List CodePoint :=
  s.done ++ s.base.toList ++ s.marks

def Composition.add (s : Composition) (p : CodePoint) : Composition :=
  let reaches := s.marks.getLast?.all fun q => decide (combiningClass q < combiningClass p)
  match s.base.bind fun b => if reaches then composite? b p else none with
  | some c => { s with base := some c }
  | none =>
    if combiningClass p = 0 then ⟨s.all, some p, []⟩ else { s with marks := s.marks ++ [p] }

def compose (ps : List CodePoint) : List CodePoint :=
  (ps.foldl Composition.add ⟨[], none, []⟩).all

def isComposed (ps : List CodePoint) : Bool :=
  ps.all (fun p => !isWithin neverComposedBounds p.value) &&
    compose (ordered (ps.flatMap (decomposed maxDepth))) == ps

end MoveSkeleton.Text
