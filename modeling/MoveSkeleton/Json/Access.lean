import MoveSkeleton.Json.Basic
import MoveSkeleton.Json.Text
import MoveSkeleton.Number.Numeral

/-! Parts of a JSON value that a record is read from, and what is wrong with a value that has not
the expected shape. -/
namespace MoveSkeleton.Json

inductive Fault where
  /-- An object has no field of this name. -/
  | missingField (name : Text)
  /-- A field was required of a value that is no object. -/
  | notIndexable (kind : Kind)
  /-- An optional field was looked for in a value that is no object. -/
  | noFields (kind : Kind)
  | notList (what : String) (kind : Kind)
  | notText (what : String) (kind : Kind)
  | notNumber (kind : Kind)
  | notNumeral (text : Text)
  | tooManyDigits (digits : Nat)
  | infinite
  | notANumber
  deriving DecidableEq

namespace Fault

def label : Fault → String
  | .missingField _ => "KeyError"
  | .notIndexable _ | .notList _ _ | .notText _ _ | .notNumber _ => "TypeError"
  | .noFields _ => "AttributeError"
  | .notNumeral _ | .tooManyDigits _ | .notANumber => "ValueError"
  | .infinite => "OverflowError"

def shownLength : Nat := 200

def message : Fault → String
  | .missingField name => Text.quoted name
  | .notIndexable .text => "string indices must be integers, not 'str'"
  | .notIndexable .list => "list indices must be integers or slices, not str"
  | .notIndexable kind => s!"'{kind.name}' object is not subscriptable"
  | .noFields kind => s!"'{kind.name}' object has no attribute 'get'"
  | .notList what kind => s!"{what}: expected list, got {kind.name}"
  | .notText what kind => s!"{what}: expected strings, got {kind.name}"
  | .notNumber kind =>
    "int() argument must be a string, a bytes-like object or a real number, not " ++
      s!"'{kind.name}'"
  | .notNumeral s =>
    "invalid literal for int() with base 10: " ++
      String.ofList ((Text.quoted s).toList.take shownLength)
  | .tooManyDigits digits => Numeral.tooLongMessage digits
  | .infinite => "cannot convert float infinity to integer"
  | .notANumber => "cannot convert float NaN to integer"

end Fault

def field (name : Text) : Json → Except Fault Json
  | .object fields =>
    match Entries.get? fields name with
    | some v => .ok v
    | none => .error (.missingField name)
  | other => .error (.notIndexable other.kind)

def field? (name : Text) : Json → Except Fault (Option Json)
  | .object fields => .ok (Entries.get? fields name)
  | other => .error (.noFields other.kind)

def fieldText (name : Text) (v : Json) : Except Fault Text :=
  return (← v.field name).asText

def fieldTruthy (name : Text) (v : Json) : Except Fault Bool :=
  return ((← v.field? name).map truthy).getD false

def items (what : String) : Json → Except Fault (List Json)
  | .list xs => .ok xs
  | other => .error (.notList what other.kind)

def fieldItems (name : String) (v : Json) : Except Fault (List Json) := do
  match ← v.field? name with
  | some x => x.items name
  | none => return []

def itemText (what : String) : Json → Except Fault Text
  | .text s => .ok s
  | other => .error (.notText what other.kind)

def texts (what : String) (v : Json) : Except Fault (List Text) := do
  (← v.items what).mapM (itemText what)

def fieldTexts (name : String) (v : Json) : Except Fault (List Text) := do
  match ← v.field? name with
  | some x => x.texts name
  | none => return []

/-- A value as a whole number: a double loses its fraction, and a text is read as a numeral. -/
def toInt : Json → Except Fault Int
  | .int n => .ok n
  | .bool b => .ok (if b then 1 else 0)
  | .float (.finite negative m e) => .ok (Double.truncate negative m e)
  | .float (.infinite _) => .error .infinite
  | .float .nan => .error .notANumber
  | .text s =>
    match Numeral.read s.shown with
    | .ok n => .ok n
    | .error .notNumeral => .error (.notNumeral s)
    | .error (.tooLong digits) => .error (.tooManyDigits digits)
  | other => .error (.notNumber other.kind)

def fieldInt (name : Text) (default : Int) (v : Json) : Except Fault Int := do
  match ← v.field? name with
  | some x => x.toInt
  | none => return default

end MoveSkeleton.Json
