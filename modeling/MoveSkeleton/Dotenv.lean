import MoveSkeleton.Entries
import MoveSkeleton.Text.Blank
import MoveSkeleton.Text.Lines

/-! Files of assignments: `KEY=VALUE` or `export KEY=VALUE` on a line of its own. Blank lines,
comments and lines without an equals sign are passed over. -/
namespace MoveSkeleton.Dotenv

open Text

def dropExport (cs : List Char) : List Char :=
  let word := "export ".toList
  if word.isPrefixOf cs then cs.drop word.length else cs

def unquote (cs : List Char) : List Char :=
  match cs with
  | q :: rest =>
    if (q = '\'' ∨ q = '"') ∧ rest.getLast? = some q then rest.dropLast else cs
  | [] => []

def assignment? (line : List Char) : Option (List Char × List Char) :=
  let cs := stripBy isBlank line
  if cs.head? = some '#' ∨ '=' ∉ cs then none
  else
    let body := dropExport cs
    let key := stripBy isBlank (body.takeWhile (· ≠ '='))
    let value := stripBy isBlank ((body.dropWhile (· ≠ '=')).drop 1)
    if key.isEmpty then none else some (key, unquote value)

/-- All assignments of a text. The last one to a key counts, and the first one gives its place. -/
def load (text : List Char) : Entries (List Char) (List Char) :=
  Entries.ofList ((lines text).filterMap assignment?)

end MoveSkeleton.Dotenv
