import MoveSkeleton.Json.Basic
import MoveSkeleton.Number.Shortest
import MoveSkeleton.Text.Quoted

/-! JSON text of JSON values. -/
namespace MoveSkeleton.Json

def printUnit (n : Nat) : List Char :=
  '\\' :: 'u' :: Text.hexDigits 4 n

/-- A code point inside a JSON string. Only ASCII is written as it is; a character beyond the
16-bit range is written as a surrogate pair. -/
def printPoint : CodePoint → List Char
  | .surrogate offset => printUnit (CodePoint.surrogate offset).value
  | .char c =>
    if c = '"' ∨ c = '\\' then ['\\', c]
    else if 0x20 ≤ c.toNat ∧ c.toNat < 0x7f then [c]
    else if c.toNat < 0x10000 then printUnit c.toNat
    else
      let n := c.toNat - 0x10000
      printUnit (0xd800 + n / 0x400) ++ printUnit (0xdc00 + n % 0x400)

def printText (t : Text) : String :=
  String.ofList ('"' :: t.points.flatMap printPoint ++ ['"'])

def printDouble : Double → String
  | .nan => "NaN"
  | .infinite negative => if negative then "-Infinity" else "Infinity"
  | x => x.text

mutual

def print : Json → String
  | .null => "null"
  | .bool b => if b then "true" else "false"
  | .int n => toString n
  | .float x => printDouble x
  | .text s => printText s
  | .list items => "[" ++ String.intercalate "," (printItems items) ++ "]"
  | .object fields => "\x7b" ++ String.intercalate "," (printFields fields) ++ "\x7d"

def printItems : List Json → List String
  | [] => []
  | x :: rest => print x :: printItems rest

def printFields : List (Text × Json) → List String
  | [] => []
  | (k, x) :: rest => (printText k ++ ":" ++ print x) :: printFields rest

end

end MoveSkeleton.Json
