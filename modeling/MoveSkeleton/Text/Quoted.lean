import MoveSkeleton.Text.Basic
import MoveSkeleton.Text.Hex
import MoveSkeleton.Text.Printable

/-! Text written as a quoted literal. -/
namespace MoveSkeleton.Text

/-- Single quotes stand around a literal unless it holds a single quote and no double quote. -/
def quoteMark (ps : List CodePoint) : Char :=
  if .char '\'' ∈ ps ∧ .char '"' ∉ ps then '"' else '\''

/-- A code point as it stands between two marks: the mark, the backslash, and what cannot be
printed are escaped. -/
def escape (mark : Char) : CodePoint → List Char
  | .surrogate offset => numberEscape (CodePoint.surrogate offset).value
  | .char c =>
    if c = mark ∨ c = '\\' then ['\\', c]
    else if c = '\n' then ['\\', 'n']
    else if c = '\r' then ['\\', 'r']
    else if c = '\t' then ['\\', 't']
    else if isPrintable c then [c]
    else numberEscape c.toNat

def quotedChars (ps : List CodePoint) : List Char :=
  quoteMark ps :: ps.flatMap (escape (quoteMark ps)) ++ [quoteMark ps]

def quoted (t : Text) : String :=
  String.ofList (quotedChars t.points)

end MoveSkeleton.Text
