import MoveSkeleton.Failure
import MoveSkeleton.Interface.Reading
import MoveSkeleton.Package.Resource

/-! What a node answers to a request, and what an answer says. -/
namespace MoveSkeleton

inductive Answer where
  | failure (lapse : TransportLapse) (message : String)
  | reply (status : Nat) (body : ByteArray)
  deriving Inhabited

namespace Answer

def notFound : Answer := .reply 404 .empty

def value (url : Text) : Answer → Except Failure Json
  | .failure lapse message => .error (.transport lapse message)
  | .reply status body =>
    if 200 ≤ status ∧ status < 300 then
      (Json.decode body).mapError (Failure.ofBody url)
    else .error (.status status url)

/-- The value that a request to an address comes to. A request to a path alone is sent off before
its reply is refused. -/
def valueAt (url : Text) (a : Answer) : Except Failure Json :=
  match a, Address.relative? url with
  | .reply _ _, some path => .error (.address (.relative path))
  | _, _ => a.value url

def resourcesOf (url : Text) : Json → Except Failure (List Resource)
  | .list items => (items.mapM Resource.ofJson).mapError (Failure.ofFault url)
  | other => .error (.malformed url (.notResources other.kind))

def interfaceOf (url : Text) (v : Json) : Except Failure Interface :=
  match v with
  | .object fields =>
    match Entries.get? fields "abi" with
    | some (.object abi) => (Interface.ofJson (.object abi)).mapError (Failure.ofFault url)
    | _ => .error (.malformed url .noInterface)
  | _ => .error (.malformed url .noInterface)

def resources (url : Text) (a : Answer) : Except Failure (List Resource) := do
  resourcesOf url (← a.value url)

def interface (url : Text) (a : Answer) : Except Failure Interface := do
  interfaceOf url (← a.value url)

/-- Every dependency that a package in the answer declares, whatever is asked for. -/
def dependencies (a : Answer) : List Dependency :=
  match a.resources "" with
  | .error _ => []
  | .ok rs => rs.flatMap fun r =>
    (r.registry.map fun g => g.packages.flatMap (·.dependencies)).getD []

end Answer

end MoveSkeleton
