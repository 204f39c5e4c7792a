import MoveSkeleton.Interface.Basic
import MoveSkeleton.Json.Access

/-! Module interfaces read from JSON. -/
namespace MoveSkeleton.Interface

open Json

def constraints (what : String) : Json → Except Fault (List Text)
  | .object fields =>
    match Entries.get? fields "constraints" with
    | some x => x.texts (what ++ ".constraints")
    | none => .ok []
  | _ => .ok []

def typeParamsOf (v : Json) : Except Fault (List (List Text)) := do
  (← v.fieldItems "generic_type_params").mapM (constraints "generic_type_params")

def Field.ofJson (v : Json) : Except Fault Field :=
  return { name := ← v.fieldText "name", type := ← v.fieldText "type" }

def Struct.ofJson (v : Json) : Except Fault Struct := do
  let name ← v.fieldText "name"
  let abilities ← v.fieldTexts "abilities"
  let typeParams ← typeParamsOf v
  let fields ← (← v.fieldItems "fields").mapM Field.ofJson
  let isNative ← v.fieldTruthy "is_native"
  let isEvent ← v.fieldTruthy "is_event"
  return { name, abilities, typeParams, fields, isNative, isEvent }

def Function.ofJson (v : Json) : Except Fault Function := do
  let name ← v.fieldText "name"
  let visibility := ((← v.field? "visibility").map asText).getD "private"
  let isEntry ← v.fieldTruthy "is_entry"
  let isView ← v.fieldTruthy "is_view"
  let typeParams ← typeParamsOf v
  let params ← v.fieldTexts "params"
  let returns ← v.fieldTexts "return"
  return { name, visibility, isEntry, isView, typeParams, params, returns }

/-- Of several faults the first in the order of these steps is reported. -/
def ofJson (v : Json) : Except Fault Interface := do
  let address ← v.fieldText "address"
  let name ← v.fieldText "name"
  let friends ← v.fieldTexts "friends"
  let functions ← (← v.fieldItems "exposed_functions").mapM Function.ofJson
  let structs ← (← v.fieldItems "structs").mapM Struct.ofJson
  return { address, name, friends, functions, structs }

end MoveSkeleton.Interface
