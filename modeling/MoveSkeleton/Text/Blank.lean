import MoveSkeleton.Text.Basic

/-! Blank characters, and text with the blanks at its ends removed. -/
namespace MoveSkeleton

namespace Text

/-- White space in the sense of Unicode, and the four separators U+001C to U+001F. A zero-width
space and a byte order mark are not blank. -/
def blankRanges : List (Nat × Nat) :=
  [(0x9, 0xd), (0x1c, 0x20), (0x85, 0x85), (0xa0, 0xa0), (0x1680, 0x1680), (0x2000, 0x200a),
    (0x2028, 0x2029), (0x202f, 0x202f), (0x205f, 0x205f), (0x3000, 0x3000)]

def isBlank (c : Char) : Bool :=
  blankRanges.any fun r => decide (r.1 ≤ c.toNat ∧ c.toNat ≤ r.2)

def stripBy {α : Type} (p : α → Bool) (cs : List α) : List α :=
  ((cs.dropWhile p).reverse.dropWhile p).reverse

@[simp] theorem stripBy_nil {α : Type} (p : α → Bool) : stripBy p [] = [] := rfl

end Text

def CodePoint.isBlank : CodePoint → Bool
  | .char c => Text.isBlank c
  | .surrogate _ => false

def Text.strip (t : Text) : Text :=
  ⟨stripBy CodePoint.isBlank t.points⟩

end MoveSkeleton
