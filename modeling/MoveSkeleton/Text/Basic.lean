/-! Text as a sequence of code points. -/
namespace MoveSkeleton

/-- A character, or a surrogate, which stands for no character. Surrogates begin at U+D800. -/
inductive CodePoint where
  | char (c : Char)
  | surrogate (offset : Fin 0x800)
  deriving DecidableEq, Inhabited

namespace CodePoint

instance : Coe Char CodePoint := ⟨.char⟩

def isSurrogate : CodePoint → Bool
  | .char _ => false
  | .surrogate _ => true

def value : CodePoint → Nat
  | .char c => c.toNat
  | .surrogate offset => 0xd800 + offset.val

def ofNat (n : Nat) : CodePoint :=
  if 0xd800 ≤ n ∧ n < 0xe000 then .surrogate (Fin.ofNat 0x800 (n - 0xd800))
  else .char (Char.ofNat n)

def shown : CodePoint → Char
  | .char c => c
  | .surrogate _ => '\ufffd'

end CodePoint

/-- A text may hold surrogates that pair with no other. -/
structure Text where
  points : List CodePoint
  deriving DecidableEq, Inhabited

namespace Text

def ofString (s : String) : Text := ⟨s.toList.map .char⟩

instance : Coe String Text := ⟨ofString⟩

instance : Append Text := ⟨fun s t => ⟨s.points ++ t.points⟩⟩

def shown (t : Text) : String := String.ofList (t.points.map CodePoint.shown)

instance : ToString Text := ⟨shown⟩

def isEmpty (t : Text) : Bool := t.points.isEmpty

def intercalate (separator : Text) : List Text → Text
  | [] => ""
  | [t] => t
  | t :: rest => t ++ separator ++ intercalate separator rest

def precedes (s t : Text) : Bool :=
  List.lex (s.points.map CodePoint.value) (t.points.map CodePoint.value) fun m n => m < n

/-- Whether an odd number of bounds, which are in increasing order, lies at or below `n`. -/
def isWithin (bounds : List Nat) (n : Nat) : Bool :=
  (bounds.takeWhile (· ≤ n)).length % 2 == 1

@[simp] theorem points_append (s t : Text) : (s ++ t).points = s.points ++ t.points := rfl

@[simp] theorem points_ofString (s : String) : (ofString s).points = s.toList.map .char := rfl

end Text

end MoveSkeleton
