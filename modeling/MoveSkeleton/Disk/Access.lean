import MoveSkeleton.Disk.Basic

/-! Files looked up and read on a disk of which not all may be searched or read. -/
namespace MoveSkeleton

/-- Which folders may be searched, and what may be read. -/
structure Access where
  maySearch : Location → Bool := fun _ => true
  mayRead : Location → Bool := fun _ => true

namespace Access

def enter (a : Access) (d : Disk) (s : Spot) (part : Text) : Except DiskLapse Spot :=
  if (d.at? s).any Tree.isFolder && !a.maySearch s.location then .error .denied
  else d.enter s part

def locate (a : Access) (d : Disk) (p : Path) : Except DiskLapse Spot :=
  if Disk.maxPath < Path.size p.text then .error .nameTooLong
  else p.parts.foldlM (a.enter d) (d.start p)

/-- Whether a path leads to something. Where that cannot be told, it is a fault. -/
def exists? (a : Access) (d : Disk) (p : Path) : Except DiskFault Bool :=
  if (DiskFault.ofPath? p).isSome then .ok false
  else match a.locate d p with
    | .ok _ => .ok true
    | .error lapse =>
      if lapse = .nameTooLong ∨ lapse = .denied then .error (.at lapse p) else .ok false

def read (a : Access) (d : Disk) (p : Path) : Except DiskFault ByteArray :=
  match DiskFault.ofPath? p with
  | some fault => .error fault
  | none =>
    match a.locate d p with
    | .error lapse => .error (.at lapse p)
    | .ok s => if a.mayRead s.location then d.readFile p else .error (.at .denied p)

end Access

end MoveSkeleton
