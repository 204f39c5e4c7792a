import MoveSkeleton.Text.Basic

/-! Published packages, the registries that list them, and the edges between them. -/
namespace MoveSkeleton

/-- A package is known by the account that published it and its name there. -/
structure PackageId where
  account : Text
  name : Text
  deriving DecidableEq, Inhabited

def PackageId.key (p : PackageId) : Text :=
  p.account ++ "::" ++ p.name

structure Dependency where
  account : Text
  name : Text
  deriving DecidableEq, Inhabited

def Dependency.target (d : Dependency) : PackageId :=
  ⟨d.account, d.name⟩

structure Package where
  name : Text
  dependencies : List Dependency
  modules : List Text
  upgradePolicy : Int := 1
  upgradeNumber : Int := 0
  sourceDigest : Text := ""
  deriving DecidableEq

def Package.upgradePolicyName (p : Package) : String :=
  match p.upgradePolicy with
  | 0 => "arbitrary"
  | 1 => "compatible"
  | 2 => "immutable"
  | n => s!"unknown({n})"

structure Registry where
  packages : List Package
  deriving DecidableEq

def Registry.find? (r : Registry) (name : Text) : Option Package :=
  r.packages.find? (·.name = name)

/-- Accounts of the framework, matched as they are written. Their packages are never resolved
or written out. -/
def frameworkAccounts : List Text := ["0x1", "0x3", "0x4"]

def isFramework (account : Text) : Bool :=
  frameworkAccounts.contains account

end MoveSkeleton
