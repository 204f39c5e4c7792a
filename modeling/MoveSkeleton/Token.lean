import MoveSkeleton.Disk.Access
import MoveSkeleton.Dotenv
import MoveSkeleton.World

/-! The token for a node: from the command line, the environment, or a file, the first that is not
blank. -/
namespace MoveSkeleton.Token

def nonBlank (t : Text) : Option Text :=
  if t.strip.isEmpty then none else some t.strip

def assignments (a : Access) (d : Disk) (file : Path) :
    Except Failure (Entries (List Char) (List Char)) := do
  if ← (a.exists? d file).mapError .disk then
    let bytes ← (a.read d file).mapError .disk
    let text ← (Text.Utf8.decode bytes).mapError .undecodable
    -- This leaves the assignments as they are: see `Dotenv.load_withFeeds`.
    return Dotenv.load (Text.withFeeds text.toList)
  else return []

def ofFile (a : Access) (d : Disk) (file : Path) : Except Failure (Option Text) := do
  let assigned := Entries.get? (← assignments a d file) tokenVariable.toList
  return assigned.bind fun cs => nonBlank ⟨cs.map .char⟩

/-- The file is read only if the other two sources are blank. -/
def find (a : Access) (flag : Option Text) (env : Entries Text Text) (file : Option Path) :
    Activity (Option Text) := do
  match flag.bind nonBlank with
  | some t => return some t
  | none =>
    match (Entries.get? env tokenVariable).bind nonBlank with
    | some t => return some t
    | none =>
      match file with
      | none => return none
      | some f =>
        let token ← Activity.ofResult (ofFile a (← get).disk f)
        if token.isSome then Activity.note (.tokenFromFile f)
        return token

end MoveSkeleton.Token
