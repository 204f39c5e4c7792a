import MoveSkeleton.Entries
import MoveSkeleton.Text.Basic

/-! Trees of folders and files. A file is its content: it has no owner, no rights and no dates, and
nothing in a tree is a link to anything else. -/
namespace MoveSkeleton

inductive Tree where
  | file (content : ByteArray)
  | folder (members : List (Text × Tree))
  deriving Inhabited

abbrev Location := List Text

namespace Tree

def empty : Tree := .folder []

def isFolder : Tree → Bool
  | .folder _ => true
  | .file _ => false

def get? : Tree → Location → Option Tree
  | t, [] => some t
  | .file _, _ :: _ => none
  | .folder members, name :: rest =>
    match Entries.get? members name with
    | some t => t.get? rest
    | none => none

/-- The tree with `new` at a location. Folders that are missing on the way are created; a file on
the way stops it. -/
def put : Tree → Location → Tree → Tree
  | _, [], new => new
  | .file content, _ :: _, _ => .file content
  | .folder members, name :: rest, new =>
    .folder (Entries.put members name (((Entries.get? members name).getD empty).put rest new))

def erase : Tree → Location → Tree
  | t, [] => t
  | .file content, _ :: _ => .file content
  | .folder members, [name] => .folder (members.filter fun e => e.1 ≠ name)
  | .folder members, name :: rest =>
    match Entries.get? members name with
    | some t => .folder (Entries.put members name (t.erase rest))
    | none => .folder members

mutual

def listing (base : Text) : Tree → List (Text × Option ByteArray)
  | .file content => [(base, some content)]
  | .folder members => (base, none) :: memberListing base members

def memberListing (base : Text) : List (Text × Tree) → List (Text × Option ByteArray)
  | [] => []
  | (name, t) :: rest => listing (base ++ "/" ++ name) t ++ memberListing base rest

end

def sortedListing : Tree → List (Text × Option ByteArray)
  | .file _ => []
  | .folder members =>
    let all := members.flatMap fun (name, t) => listing name t
    all.mergeSort fun a b => !b.1.precedes a.1

@[simp] theorem get?_nil (t : Tree) : t.get? [] = some t := by
  cases t <;> rfl

end Tree

end MoveSkeleton
