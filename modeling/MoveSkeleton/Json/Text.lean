import MoveSkeleton.Json.Basic
import MoveSkeleton.Number.Shortest
import MoveSkeleton.Text.Quoted

/-! JSON values as the text of a name, a type or an address. -/
namespace MoveSkeleton.Json

mutual

def literal : Json → String
  | .null => "None"
  | .bool b => if b then "True" else "False"
  | .int n => toString n
  | .float x => x.text
  | .text s => Text.quoted s
  | .list items => "[" ++ String.intercalate ", " (literals items) ++ "]"
  | .object fields => "\x7b" ++ String.intercalate ", " (fieldLiterals fields) ++ "\x7d"

def literals : List Json → List String
  | [] => []
  | x :: rest => literal x :: literals rest

def fieldLiterals : List (Text × Json) → List String
  | [] => []
  | (k, x) :: rest => (Text.quoted k ++ ": " ++ literal x) :: fieldLiterals rest

end

def asText : Json → Text
  | .text s => s
  | other => literal other

end MoveSkeleton.Json
