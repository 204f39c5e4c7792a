import MoveSkeleton.Interface.Source
import MoveSkeleton.Package.Manifest
import MoveSkeleton.Resolution.Walk

/-! Source skeletons of packages, written to the disk. -/
namespace MoveSkeleton

structure Skeleton where
  folder : Path
  dependencies : Resolution.DependencySet

namespace Skeleton

open Activity

def sourcesFolder : String := "sources"

def sourceFile (module : Text) : Text :=
  module ++ ".move"

def dependenciesFolder (s : Skeleton) : Path :=
  s.folder.join Manifest.dependenciesFolder

def writeModules (c : Client) (account : Text) (folder : Path) : List Text → Activity Unit
  | [] => pure ()
  | module :: rest => do
    let interface ← c.fetchInterface account module
    let file := folder.join (sourceFile module)
    writeText file interface.source
    note (.wroteModule file)
    writeModules c account folder rest

def writeFiles (c : Client) (p : PackageId) (folder : Path) (isRoot : Bool) : Activity Path := do
  let record ← ofResult (Resource.requirePackage p (← c.fetchResources p.account))
  let sources := folder.join sourcesFolder
  onDisk (Disk.ensureFolders sources)
  writeModules c p.account sources record.modules
  let manifest := folder.join Manifest.fileName
  writeText manifest (Manifest.text isRoot p.name record)
  note (.wroteManifest manifest)
  return manifest

/-- Writes one package to a folder. What is there already stays unless it is written over. A
package that cannot be read is a failure here. -/
def writePackage (c : Client) (p : PackageId) (folder : Path) (isRoot : Bool) : Activity Path := do
  note (.downloading p)
  notingFailure Failure.isExpected (.downloadFailed p) (writeFiles c p folder isRoot)

def writeDependencies (c : Client) (folder : Path) : List Dependency → Activity Unit
  | [] => pure ()
  | d :: rest => do
    let _ ← writePackage c d.target (folder.join d.folder) false
    writeDependencies c folder rest

def clear (folder : Path) : Activity Unit := do
  if ← ofResult (((← get).disk.exists? folder).mapError .disk) then
    note (.removing folder)
    onDisk (Disk.removeFolder folder)

/-- Writes a package and all packages that it depends on to the folder of its name in `target`. The
first failure ends the run, and what was written before it stays. -/
def create (c : Client) (root : PackageId) (target : Path) : Activity Skeleton := do
  let folder := target.join root.name
  clear folder
  let dependencies ← Resolution.resolve c root
  note (.collected dependencies.length)
  let _ ← writePackage c root folder true
  let s : Skeleton := ⟨folder, dependencies⟩
  onDisk (Disk.ensureFolders s.dependenciesFolder)
  writeDependencies c s.dependenciesFolder (dependencies.map (·.2))
  return s

end Skeleton

end MoveSkeleton
