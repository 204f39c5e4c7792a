import MoveSkeleton.Node.Basic
import MoveSkeleton.Package.Manifest
import MoveSkeleton.Terminal.Wrap

/-! What a run acts on and what it leaves behind. -/
namespace MoveSkeleton

inductive Level where
  | debug
  | info
  | warning
  | error
  deriving DecidableEq

def Level.name : Level → String
  | .debug => "DEBUG"
  | .info => "INFO"
  | .warning => "WARNING"
  | .error => "ERROR"

inductive Event where
  | requestRefused (status : Nat) (url account : Text)
  | unreadable (package : PackageId) (why : Failure)
  | noRegistry (package : PackageId)
  | noPackage (package : PackageId)
  | discovered (package : PackageId)
  | collected (count : Nat)
  | removing (folder : Path)
  | downloading (package : PackageId)
  | wroteModule (file : Path)
  | wroteManifest (file : Path)
  | downloadFailed (package : PackageId) (why : Failure)
  | tokenFromFile (file : Path)

def tokenVariable : String := "APTOS_API_TOKEN"

namespace Event

def level : Event → Level
  | .discovered _ | .tokenFromFile _ => .debug
  | .collected _ | .removing _ | .downloading _ | .wroteModule _ | .wroteManifest _ => .info
  | .noRegistry _ | .noPackage _ => .warning
  | .requestRefused _ _ _ | .unreadable _ _ | .downloadFailed _ _ => .error

def message : Event → String
  | .requestRefused status url account =>
    s!"RPC request failed: status={status}, url={url}, account={account}"
  | .unreadable p why =>
    s!"Error collecting dependencies for {p.name} ({p.account}): {why.message}"
  | .noRegistry p =>
    s!"No PackageRegistry for account {p.account}; skipping dependencies of {p.name}"
  | .noPackage p =>
    s!"Package {p.name} not found in account {p.account}; skipping its dependencies"
  | .discovered p => s!"Discovered dependency {p.key}"
  | .collected count => s!"Collected {count} unique dependencies"
  | .removing folder => s!"Removing existing output directory: {folder.text}"
  | .downloading p =>
    s!"Downloading package: {folderName p.name p.account} from account: {p.account}"
  | .wroteModule file => s!"Wrote module: {file.text}"
  | .wroteManifest file => s!"Wrote manifest: {file.text}"
  | .downloadFailed p why => s!"Error downloading package {p.name} ({p.account}): {why.message}"
  | .tokenFromFile file => s!"Using {tokenVariable} from {file.text}"

end Event

structure Request where
  url : Text
  authorization : Option Text
  deriving DecidableEq

structure World where
  node : Node
  disk : Disk
  requests : List Request := []
  events : List Event := []
  printed : Text := ""
  deriving Inhabited

def World.print (w : World) (lines : List Text) : World :=
  { w with printed := lines.foldl (fun text line => text ++ line ++ "\n") w.printed }

/-- What a run does to its world stays done when it fails. -/
abbrev Activity (α : Type) := ExceptT Failure (StateM World) α

namespace Activity

def note (e : Event) : Activity Unit :=
  modify fun w => { w with events := w.events ++ [e] }

def ofResult {α : Type} (r : Except Failure α) : Activity α :=
  ExceptT.mk (pure r)

def display (lines : Except Terminal.Fault (List Text)) : Activity Unit := do
  let lines ← ofResult (lines.mapError .unprintable)
  modify (·.print lines)

def say (s : Terminal.Screen) (text : Text) : Activity Unit :=
  display (s.lines text)

/-- An activity whose failures of a given kind are noted before they are passed on. -/
def notingFailure {α : Type} (which : Failure → Bool) (event : Failure → Event) (a : Activity α) :
    Activity α :=
  ExceptT.mk fun w =>
    match a.run.run w with
    | (.ok x, w') => (.ok x, w')
    | (.error e, w') =>
      (.error e, if which e then { w' with events := w'.events ++ [event e] } else w')

def onDisk {α : Type} (a : Disk.Action α) : Activity α := do
  let w ← get
  let (r, d) := a.run.run w.disk
  set { w with disk := d }
  ofResult (r.mapError .disk)

/-- Writes a text to a file. If the text cannot be encoded, the file is left empty. -/
def writeText (file : Path) (t : Text) : Activity Unit :=
  match t.toUtf8 with
  | .ok content => onDisk (Disk.writeFile file content)
  | .error fault => do
    onDisk (Disk.writeFile file .empty)
    throw (.unencodable fault)

end Activity

namespace Client

def refusals (account : Text) : Except Failure Json → List Event
  | .error (.status code url) => [.requestRefused code url account]
  | _ => []

/-- The value that the node answers at an address, and the world after the request. At an address
with a fault nothing is asked. -/
def request (c : Client) (url account : Text) (w : World) : Except Failure Json × World :=
  match Address.fault? url with
  | some fault => (.error (.address fault), w)
  | none =>
    let (a, n) := w.node.ask url
    let v := a.valueAt url
    (v, { w with
      node := n
      requests := w.requests ++ [⟨url, c.authorization url⟩]
      events := w.events ++ refusals account v })

def readResources (c : Client) (account : Text) (w : World) :
    Except Failure (List Resource) × World :=
  let url := c.resourcesUrl account
  let (v, w') := c.request url account w
  (v.bind (Answer.resourcesOf url), w')

def readInterface (c : Client) (account module : Text) (w : World) :
    Except Failure Interface × World :=
  let url := c.interfaceUrl account module
  let (v, w') := c.request url account w
  (v.bind (Answer.interfaceOf url), w')

def fetchResources (c : Client) (account : Text) : Activity (List Resource) :=
  ExceptT.mk (c.readResources account)

def fetchInterface (c : Client) (account module : Text) : Activity Interface :=
  ExceptT.mk (c.readInterface account module)

end Client

end MoveSkeleton
