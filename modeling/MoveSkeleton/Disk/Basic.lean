import MoveSkeleton.Disk.Path
import MoveSkeleton.Disk.Tree
import MoveSkeleton.Text.Bytes
import MoveSkeleton.Text.Quoted

/-! A disk: a tree of folders and a working folder in it, and what can be done on it. The disk is an
ideal one: there are no links on it, all of it may be searched, read, written and removed, and a step
is done as a whole or not at all, for want of neither room nor a device. -/
namespace MoveSkeleton

inductive DiskLapse where
  | missing
  | denied
  | exists
  | notFolder
  | isFolder
  | invalid
  | nameTooLong
  | notEmpty
  deriving DecidableEq

namespace DiskLapse

def number : DiskLapse → Nat
  | .missing => 2
  | .denied => 13
  | .exists => 17
  | .notFolder => 20
  | .isFolder => 21
  | .invalid => 22
  | .nameTooLong => 36
  | .notEmpty => 39

def message : DiskLapse → String
  | .missing => "No such file or directory"
  | .denied => "Permission denied"
  | .exists => "File exists"
  | .notFolder => "Not a directory"
  | .isFolder => "Is a directory"
  | .invalid => "Invalid argument"
  | .nameTooLong => "File name too long"
  | .notEmpty => "Directory not empty"

def label : DiskLapse → String
  | .missing => "FileNotFoundError"
  | .denied => "PermissionError"
  | .exists => "FileExistsError"
  | .notFolder => "NotADirectoryError"
  | .isFolder => "IsADirectoryError"
  | .invalid | .nameTooLong | .notEmpty => "OSError"

end DiskLapse

/-- What failed at which path. A file that was to be emptied like a folder has a fault of its own,
and a path that cannot be encoded, or has a zero character, is refused before the disk is
reached. -/
inductive DiskFault where
  | at (lapse : DiskLapse) (path : Path)
  | notEmptiable (path : Path)
  | unencodable (fault : Text.EncodingFault)
  | zeroCharacter
  deriving DecidableEq

namespace DiskFault

def label : DiskFault → String
  | .at lapse _ => lapse.label
  | .notEmptiable _ => DiskLapse.notFolder.label
  | .unencodable _ => Text.EncodingFault.label
  | .zeroCharacter => "ValueError"

def message : DiskFault → String
  | .at lapse path => s!"[Errno {lapse.number}] {lapse.message}: {Text.quoted path.text}"
  | .notEmptiable path =>
    s!"[Errno {DiskLapse.notFolder.number}] {DiskLapse.notFolder.message}: " ++
      s!"PosixPath({Text.quoted path.text})"
  | .unencodable fault => fault.message
  | .zeroCharacter => "embedded null byte"

def ofPath? (p : Path) : Option DiskFault :=
  match Text.EncodingFault.findFrom .surrogate Path.isByte 0 p.text.points with
  | some fault => some (.unencodable fault)
  | none => if p.text.points.contains '\x00' then some .zeroCharacter else none

end DiskFault

/-- The innermost `lost` folders on the way to the working folder have been removed since the work
in it began. -/
structure Disk where
  root : Tree
  here : Location
  lost : Nat := 0
  deriving Inhabited

structure Spot where
  location : Location
  lost : Nat := 0

namespace Disk

def blank (here : Location) : Disk :=
  { root := Tree.empty.put here .empty, here }

def maxName : Nat := 255

def maxPath : Nat := 4095

def start (d : Disk) (p : Path) : Spot :=
  match p.anchor with
  | .here => ⟨d.here, d.lost⟩
  | _ => ⟨[], 0⟩

def at? (d : Disk) (s : Spot) : Option Tree :=
  if s.lost = 0 then d.root.get? s.location else some .empty

/-- Goes to a member of the folder at a spot. Two dots lead to the folder that holds it; the root
holds itself. Nothing else leads out of a removed folder. -/
def enter (d : Disk) (s : Spot) (part : Text) : Except DiskLapse Spot :=
  match d.at? s with
  | none => .error .missing
  | some (.file _) => .error .notFolder
  | some (.folder _) =>
    if part = ".." then .ok ⟨s.location.dropLast, s.lost - 1⟩
    else if 0 < s.lost then .error .missing
    else if maxName < Path.size part then .error .nameTooLong
    else if (d.root.get? (s.location ++ [part])).isSome then .ok ⟨s.location ++ [part], 0⟩
    else .error .missing

def locate (d : Disk) (p : Path) : Except DiskLapse Spot :=
  if maxPath < Path.size p.text then .error .nameTooLong
  else p.parts.foldlM d.enter (d.start p)

/-- Whether a path leads to something. That a name is too long is a fault even then. -/
def exists? (d : Disk) (p : Path) : Except DiskFault Bool :=
  if (DiskFault.ofPath? p).isSome then .ok false
  else match d.locate p with
    | .ok _ => .ok true
    | .error .nameTooLong => .error (.at .nameTooLong p)
    | .error _ => .ok false

def isFolder? (d : Disk) (p : Path) : Except DiskFault Bool :=
  if (DiskFault.ofPath? p).isSome then .ok false
  else match d.locate p with
    | .ok s => .ok ((d.at? s).any Tree.isFolder)
    | .error .nameTooLong => .error (.at .nameTooLong p)
    | .error _ => .ok false

def locateLast (d : Disk) (p : Path) : Except DiskLapse (Spot × Option Text) :=
  if maxPath < Path.size p.text then .error .nameTooLong
  else do
    let s ← p.parts.dropLast.foldlM d.enter (d.start p)
    match d.at? s with
    | some (.folder _) => return (s, p.parts.getLast?)
    | some (.file _) => .error .notFolder
    | none => .error .missing

def newMember (s : Spot) (name : Text) : Except DiskLapse Location :=
  if 0 < s.lost then .error .missing
  else if maxName < Path.size name then .error .nameTooLong
  else .ok (s.location ++ [name])

def makeFolder (d : Disk) (p : Path) : Except DiskLapse Disk := do
  match ← d.locateLast p with
  | (_, none) => .error .exists
  | (s, some name) =>
    if name = ".." then .error .exists
    else
      let l ← newMember s name
      if (d.root.get? l).isSome then .error .exists
      else return { d with root := d.root.put l .empty }

/-- What is done on a disk stays done when a later step fails. -/
abbrev Action (α : Type) := ExceptT DiskFault (StateM Disk) α

def checkPath (p : Path) : Action Unit :=
  match DiskFault.ofPath? p with
  | some fault => throw fault
  | none => return

/-- Lets a lapse pass if the path leads to a folder after all. -/
def tolerate (p : Path) (lapse : DiskLapse) : Action Unit := do
  match (← get).isFolder? p with
  | .ok true => return
  | .ok false => throw (.at lapse p)
  | .error fault => throw fault

def ensureFolder (p : Path) : Action Unit := do
  match (← get).makeFolder p with
  | .ok d => set d
  | .error .missing => throw (.at .missing p)
  | .error lapse => tolerate p lapse

def ensureFolderUpTo (p : Path) : Nat → Action Unit
  | 0 => ensureFolder { p with parts := [] }
  | n + 1 => do
    let q := { p with parts := p.parts.take (n + 1) }
    match (← get).makeFolder q with
    | .ok d => set d
    | .error .missing =>
      ensureFolderUpTo p n
      ensureFolder q
    | .error lapse => tolerate q lapse

def ensureFolders (p : Path) : Action Unit := do
  checkPath p
  ensureFolderUpTo p p.parts.length

def locateFile (d : Disk) (p : Path) : Except DiskLapse Location := do
  match ← d.locateLast p with
  | (_, none) => .error .isFolder
  | (s, some name) =>
    if name = ".." then .error .isFolder
    else
      let l ← newMember s name
      match d.root.get? l with
      | some (.folder _) => .error .isFolder
      | _ => return l

def writeFile (p : Path) (content : ByteArray) : Action Unit := do
  checkPath p
  let d ← get
  match d.locateFile p with
  | .ok l => set { d with root := d.root.put l (.file content) }
  | .error lapse => throw (.at lapse p)

def readFile (d : Disk) (p : Path) : Except DiskFault ByteArray :=
  match DiskFault.ofPath? p with
  | some fault => .error fault
  | none =>
    match d.locate p with
    | .error lapse => .error (.at lapse p)
    | .ok s =>
      match d.at? s with
      | some (.file content) => .ok content
      | some (.folder _) => .error (.at .isFolder p)
      | none => .error (.at .missing p)

/-- The disk without what stands at a location. Of the way to the working folder what lies there
is lost. -/
def erase (d : Disk) (l : Location) : Disk :=
  { d with
    root := d.root.erase l
    lost := if l.isPrefixOf d.here then max d.lost (d.here.length + 1 - l.length) else d.lost }

def empty (d : Disk) (l : Location) : Disk :=
  { d with
    root := d.root.put l .empty
    lost := if l.isPrefixOf d.here then max d.lost (d.here.length - l.length) else d.lost }

/-- Removes a folder that has been emptied. One cannot be removed by way of itself or of a folder
inside it. -/
def removeEmptied (p : Path) : Action Unit := do
  let d ← get
  match d.locateLast p with
  | .error lapse => throw (.at lapse p)
  | .ok (_, none) => throw (.at .invalid p)
  | .ok (s, some name) =>
    if name = ".." then throw (.at .notEmpty p)
    else set (d.erase (s.location ++ [name]))

def removeFolder (p : Path) : Action Unit := do
  let d ← get
  match d.locate p with
  | .error lapse => throw (.at lapse p)
  | .ok s =>
    match d.at? s with
    | some (.folder _) =>
      if s.lost = 0 then set (d.empty s.location)
      removeEmptied p
    | _ => throw (.notEmptiable p)

def listing (d : Disk) : List (Text × Option ByteArray) :=
  ((d.at? ⟨d.here, d.lost⟩).map Tree.sortedListing).getD []

end Disk

end MoveSkeleton
