import MoveSkeleton.Json.Access
import MoveSkeleton.Package.Basic

/-! The resources of an account, read from JSON, and the package registry among them. -/
namespace MoveSkeleton

open Json

def Dependency.ofJson (v : Json) : Except Fault Dependency :=
  return { account := ← v.fieldText "account", name := ← v.fieldText "package_name" }

def Package.moduleName (v : Json) : Except Fault Text :=
  v.fieldText "name"

/-- The upgrade policy is held in an object of its own. An absent one, and one that counts as
false, is an object without fields. -/
def Package.policyObject (v : Json) : Except Fault Json := do
  match ← v.field? "upgrade_policy" with
  | some x => return if x.truthy then x else .object []
  | none => return .object []

def Package.ofJson (v : Json) : Except Fault Package := do
  let policy ← Package.policyObject v
  let name ← v.fieldText "name"
  let dependencies ← (← v.fieldItems "deps").mapM Dependency.ofJson
  let modules ← (← v.fieldItems "modules").mapM Package.moduleName
  let upgradePolicy ← policy.fieldInt "policy" 1
  let upgradeNumber ← v.fieldInt "upgrade_number" 0
  let sourceDigest := ((← v.field? "source_digest").map asText).getD ""
  return { name, dependencies, modules, upgradePolicy, upgradeNumber, sourceDigest }

def Registry.ofJson (v : Json) : Except Fault Registry := do
  return { packages := ← (← (← v.field "packages").items "packages").mapM Package.ofJson }

/-- A resource is tagged by its type. Its data is kept as it is; only the package registry is read
further, and only if it lists something. -/
structure Resource where
  type : Text
  data : Entries Text Json
  registry : Option Registry

def registryType : Text := "0x1::code::PackageRegistry"

namespace Resource

def isRegistry (r : Resource) : Bool :=
  r.type == registryType

def fieldsOf : Option Json → Entries Text Json
  | some (.object fields) => fields
  | _ => []

def ofJson (v : Json) : Except Fault Resource := do
  let type ← v.fieldText "type"
  let data := fieldsOf (← v.field? "data")
  if type = registryType ∧ (((Entries.get? data "packages").map truthy).getD false) then
    return { type, data, registry := some (← Registry.ofJson (.object data)) }
  else return { type, data, registry := none }

def registryOf (rs : List Resource) : Option Registry :=
  (rs.find? isRegistry).bind (·.registry)

def unlisted (r : Resource) : Resource :=
  { r with registry := r.registry.map fun _ => ⟨[]⟩ }

def findPackage (rs : List Resource) (name : Text) : Option Package :=
  (registryOf rs).bind (·.find? name)

end Resource

end MoveSkeleton
