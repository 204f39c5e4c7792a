import MoveSkeleton.Package.Basic

/-! The manifest of a package: its name, and where each of its dependencies is found. -/
namespace MoveSkeleton

def bareAccount (account : Text) : Text :=
  match account.points with
  | .char '0' :: .char 'x' :: rest => ⟨rest⟩
  | _ => account

def folderName (name account : Text) : Text :=
  name ++ "_" ++ bareAccount account

def Dependency.folder (d : Dependency) : Text :=
  folderName d.name d.account

namespace Manifest

def fileName : String := "Move.toml"

def dependenciesFolder : String := "deps"

def version : String := "1.0.0"

def frameworkRepository : String := "https://github.com/aptos-labs/aptos-framework.git"

def frameworkRevision : String := "mainnet"

def frameworkFolders : List (Text × String) :=
  [("AptosStdlib", "aptos-stdlib"), ("AptosFramework", "aptos-framework"),
    ("AptosTokenObjects", "aptos-token-objects"), ("AptosToken", "aptos-token"),
    ("MoveStdlib", "move-stdlib")]

def frameworkFolder (name : Text) : String :=
  (frameworkFolders.lookup name).getD "aptos-framework"

/-- A framework package is found in the framework's repository, and any other beside the package
that names it, or in the root package's own folder. -/
def dependencyLine (isRoot : Bool) (d : Dependency) : Text :=
  if isFramework d.account then
    d.name ++ " = \x7b git = \"" ++ frameworkRepository ++ "\", rev = \"" ++ frameworkRevision ++
      "\", subdir = \"" ++ frameworkFolder d.name ++ "\"\x7d"
  else
    d.name ++ " = \x7b local = \"" ++ (if isRoot then dependenciesFolder ++ "/" else "../") ++
      d.folder ++ "\" \x7d"

def text (isRoot : Bool) (name : Text) (p : Package) : Text :=
  "[package]\nname = \"" ++ name ++ "\"\nversion = \"" ++ version ++
    "\"\nauthors = []\n\n[dev-addresses]\n\n[dependencies]\n" ++
    Text.intercalate "\n" (p.dependencies.map (dependencyLine isRoot)) ++
    "\n\n[dev-dependencies]"

end Manifest

end MoveSkeleton
