import MoveSkeleton.Json.Printer
import MoveSkeleton.Node.Basic

/-! The answers of a node on record: an object that holds for each address one answer, or a list of
answers to one request after the other. -/
namespace MoveSkeleton

namespace Answer

/-- The body of an answer is recorded as a value, as text, or in hexadecimal digits. -/
def recordedBody? (fields : Entries Text Json) : Option ByteArray :=
  match Entries.get? fields "json", Entries.get? fields "text", Entries.get? fields "hex" with
  | some v, _, _ => some v.print.toUTF8
  | none, some (.text s), _ => some s.shown.toUTF8
  | none, none, some (.text s) => (Text.hexBytes? s.shown.toList).map (·.toByteArray)
  | none, none, none => some .empty
  | _, _, _ => none

def recordedStatus? (fields : Entries Text Json) : Option Nat :=
  match Entries.get? fields "status" with
  | none => some 200
  | some (.int (.ofNat n)) => some n
  | some _ => none

def ofRecord? : Json → Option Answer
  | .object fields =>
    match Entries.get? fields "raise", Entries.get? fields "message" with
    | some (.text label), some (.text message) =>
      (TransportLapse.ofLabel? label.shown).map (.failure · message.shown)
    | some (.text label), none => (TransportLapse.ofLabel? label.shown).map (.failure · "")
    | some _, _ => none
    | none, _ => return .reply (← recordedStatus? fields) (← recordedBody? fields)
  | _ => none

def sequenceOfRecord? : Json → Option (List Answer)
  | .list items => items.mapM ofRecord?
  | v => do return [← ofRecord? v]

end Answer

def Node.ofRecord? : Json → Option Node
  | .object fields => fields.mapM fun (url, v) => do return (url, ← Answer.sequenceOfRecord? v)
  | _ => none

end MoveSkeleton
