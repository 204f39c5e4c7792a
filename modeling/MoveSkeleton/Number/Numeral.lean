import MoveSkeleton.Text.Blank
import MoveSkeleton.Text.Digit

/-! Whole numbers read from text. -/
namespace MoveSkeleton

inductive NumeralFault where
  | notNumeral
  | tooLong (digits : Nat)
  deriving DecidableEq

namespace Numeral

def maxDigits : Nat := 4300

def isMargin (c : Char) : Bool :=
  Text.isBlank c && !decide (0x1c ≤ c.toNat ∧ c.toNat ≤ 0x1f)

def tooLongMessage (digits : Nat) : String :=
  s!"Exceeds the limit ({maxDigits} digits) for integer string conversion: value has {digits} " ++
    "digits; use sys.set_int_max_str_digits() to increase the limit"

def isDigit (c : Char) : Bool := (Text.digitValue? c).isSome

def continues : List Char → Bool
  | [] => true
  | '_' :: c :: rest => isDigit c && continues rest
  | c :: rest => isDigit c && continues rest

def wellSeparated : List Char → Bool
  | [] => false
  | c :: rest => isDigit c && continues rest

def value (run : List Char) : Nat :=
  (run.filterMap Text.digitValue?).foldl (fun n d => 10 * n + d) 0

def splitSign : List Char → Bool × List Char
  | '-' :: rest => (true, rest)
  | '+' :: rest => (false, rest)
  | cs => (false, cs)

/-- Margin, one sign at most, and decimal digits of any script with single underscores between
them. A run with too many digits is refused before what follows it is looked at. -/
def read (s : String) : Except NumeralFault Int :=
  let (negative, body) := splitSign (Text.stripBy isMargin s.toList)
  let isRun := fun c => isDigit c || c == '_'
  let run := body.takeWhile isRun
  let digits := (run.filter isDigit).length
  if !wellSeparated run then .error .notNumeral
  else if maxDigits < digits then .error (.tooLong digits)
  else if !(body.dropWhile isRun).isEmpty then .error .notNumeral
  else .ok (if negative then -(value run : Int) else value run)

end Numeral

end MoveSkeleton
