import MoveSkeleton.Text.Hex
import MoveSkeleton.Text.Quoted

/-! Why a label of a host name is refused, and how that is told. -/
namespace MoveSkeleton.Label

/-- Why a label, or a host name with it, is refused. Positions count from 1. -/
inductive Fault where
  | nameTooLong
  | empty
  | notComposed
  | hyphensInside
  | hyphenAtEnd
  | markAtStart
  | strayJoiner (p : CodePoint) (position : Nat) (label : Text)
  | outOfContext (p : CodePoint) (position : Nat) (label : Text)
  | notAdmitted (p : CodePoint) (position : Nat) (label : Text)
  | unknownDirection (position : Nat) (label : Text)
  | startWithoutDirection (label : Text)
  | leftAmongRight (position : Nat)
  | mixedNumbers
  | rightAmongLeft (position : Nat)
  | endWithoutDirection
  | nothingWritten
  | hyphenAfterWritten
  | badlyWritten
  deriving DecidableEq

def pointName (p : CodePoint) : String :=
  let digits :=
    if p.value < 0x10000 then Text.hexDigits 4 p.value
    else (Text.hexDigits 6 p.value).dropWhile (· == '0')
  "U+" ++ String.ofList (digits.map Char.toUpper)

namespace Fault

def label : Fault → String
  | .notAdmitted .. => "InvalidCodepoint"
  | .outOfContext .. => "InvalidCodepointContext"
  | .unknownDirection .. | .startWithoutDirection _ | .leftAmongRight _ | .mixedNumbers
  | .rightAmongLeft _ | .endWithoutDirection => "IDNABidiError"
  | _ => "IDNAError"

def message : Fault → String
  | .nameTooLong => "Domain too long"
  | .empty => "Empty Label"
  | .notComposed => "Label must be in Normalization Form C"
  | .hyphensInside => "Label has disallowed hyphens in 3rd and 4th position"
  | .hyphenAtEnd => "Label must not start or end with a hyphen"
  | .markAtStart => "Label begins with an illegal combining character"
  | .strayJoiner p position label =>
    s!"Unknown codepoint adjacent to joiner {pointName p} at position {position} " ++
      s!"in {Text.quoted label}"
  | .outOfContext p position label =>
    s!"Codepoint {pointName p} not allowed at position {position} in {Text.quoted label}"
  | .notAdmitted p position label =>
    s!"Codepoint {pointName p} at position {position} of {Text.quoted label} not allowed"
  | .unknownDirection position label =>
    s!"Unknown directionality in label {Text.quoted label} at position {position}"
  | .startWithoutDirection label =>
    s!"First codepoint in label {Text.quoted label} must be directionality L, R or AL"
  | .leftAmongRight position =>
    s!"Invalid direction for codepoint at position {position} in a right-to-left label"
  | .mixedNumbers => "Can not mix numeral types in a right-to-left label"
  | .rightAmongLeft position =>
    s!"Invalid direction for codepoint at position {position} in a left-to-right label"
  | .endWithoutDirection => "Label ends with illegal codepoint directionality"
  | .nothingWritten => "Malformed A-label, no Punycode eligible content found"
  | .hyphenAfterWritten => "A-label must not end with a hyphen"
  | .badlyWritten => "Invalid A-label"

end Fault

end MoveSkeleton.Label
