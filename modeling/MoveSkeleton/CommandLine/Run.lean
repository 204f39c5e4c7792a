import MoveSkeleton.CommandLine.Settings
import MoveSkeleton.Skeleton
import MoveSkeleton.Terminal.Table
import MoveSkeleton.Token

/-! Running a command: what it prints, and how it ends. -/
namespace MoveSkeleton.CommandLine

open Activity

/-- What a program is run with besides its arguments: the variables of its environment, what it may
search and read to find its token, the screen, the address of the node that is asked unless another
is given, and the lines that a display of progress leaves on the screen. What these tell depends on
the time that a run takes. -/
structure Surroundings where
  environment : Entries Text Text := []
  access : Access := {}
  screen : Terminal.Screen := {}
  address : Text := publicAddress
  progress : List Text := []

/-- The address is settled by the environment as soon as a program begins. -/
def Surroundings.ofEnvironment (environment : Entries Text Text) : Surroundings :=
  { environment, address := (Entries.get? environment addressVariable).getD publicAddress }

/-- Prints some lines once an activity has returned or failed. -/
def leaving {α : Type} (lines : List Text) (a : Activity α) : Activity α :=
  ExceptT.mk fun w =>
    let (r, w') := a.run.run w
    (r, w'.print lines)

def voidText : String := "[]"

namespace Settings

def root (s : Settings) : PackageId :=
  ⟨s.account.getD voidText, s.package.getD voidText⟩

def findToken (u : Surroundings) (s : Settings) : Activity (Option Text) := do
  match ← Token.find u.access s.token.join u.environment s.envFile with
  | some t => return some t
  | none => if s.envFile.isNone then throw (.void .envFile) else return none

def client (u : Surroundings) (s : Settings) : Activity Client := do
  let token ← s.findToken u
  say u.screen ("Using RPC: " ++ s.rpc.getD voidText)
  if token.isSome then say u.screen "Using Bearer token for authentication"
  match s.rpc with
  | none => throw (.void .address)
  | some address => ofResult ((Client.make address token).mapError .unencodable)

def runCreate (u : Surroundings) (s : Settings) : Activity Unit := do
  say u.screen ("Using account: " ++ s.root.account)
  say u.screen ("Target package: " ++ s.root.name)
  if s.package.isNone then throw (.void .package)
  say u.screen ("Output directory: " ++ (s.directory.join s.root.name).text)
  let c ← s.client u
  let made ← leaving u.progress (Skeleton.create c s.root s.directory)
  say u.screen s!"Collected {made.dependencies.length} unique dependencies"
  say u.screen ("[green]All operations completed successfully![/green] Mock package at " ++
    made.folder.text)

def dependencyTable (root : PackageId) (ds : List Dependency) : Terminal.Table :=
  { title := "Dependencies of " ++ root.key
    columns := [
      { header := "#", alignment := .right, cells := ds.mapIdx fun i _ => toString (i + 1) },
      { header := "Account", cells := ds.map (·.account) },
      { header := "Package", cells := ds.map (·.name) },
      { header := "Folder", cells := ds.map (·.folder) }] }

/-- What the root of a run depends on. No package has a void name, so the account of such a root is
asked in vain. -/
def resolve (c : Client) (s : Settings) : Activity Resolution.DependencySet :=
  if s.package.isSome then Resolution.resolve c s.root
  else ExceptT.mk fun w =>
    let (rs, w') := c.readResources s.root.account w
    let (edges, noted) := Resolution.declared s.root (rs.map (·.map Resource.unlisted))
    (edges.map fun _ => [], { w' with events := w'.events ++ noted })

def runDeps (u : Surroundings) (s : Settings) : Activity Unit := do
  let found ← s.resolve (← s.client u)
  display ((dependencyTable s.root (found.map (·.2))).lines u.screen)
  say u.screen s!"{found.length} unique dependencies (framework packages excluded)"

def run (u : Surroundings) (s : Settings) : Activity Unit :=
  match s.command with
  | .create => s.runCreate u
  | .deps => s.runDeps u

end Settings

inductive Ending where
  | exit (status : Nat) (errors : Text)
  | escaped (why : Failure)
  deriving DecidableEq

def notice (why : Failure) : Text :=
  "[red]Command failed:[/red] " ++ why.message

/-- A command that failed as expected says why and exits with status one, unless what it says cannot
be printed. -/
def conclude (screen : Terminal.Screen) (w : World) : Except Failure Unit → Ending × World
  | .ok () => (.exit 0 "", w)
  | .error why =>
    if why.isExpected then
      match (say screen (notice why)).run.run w with
      | (.ok (), w') => (.exit 1 "", w')
      | (.error fault, w') => (.escaped fault, w')
    else (.escaped why, w)

def perform (args : List Text) (u : Surroundings) (w : World) : Ending × World :=
  match Invocation.ofArgs u.address args with
  | .help text => (.exit 0 "", { w with printed := w.printed ++ text })
  | .refused text => (.exit 2 text, w)
  | .run s =>
    let (r, w') := (s.run u).run.run w
    conclude u.screen w' r

def isNoted (args : List Text) (u : Surroundings) (e : Event) : Bool :=
  match Invocation.ofArgs u.address args with
  | .run s => s.verbose || e.level ≠ .debug
  | _ => false

end MoveSkeleton.CommandLine
