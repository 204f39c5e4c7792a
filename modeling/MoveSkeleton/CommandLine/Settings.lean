import MoveSkeleton.CommandLine.Usage

/-! A command line read as a command and its settings. -/
namespace MoveSkeleton.CommandLine

def publicAddress : String := "https://api.mainnet.aptoslabs.com"

def addressVariable : String := "APTOS_MOCK_DEFAULT_RPC_URL"

def defaultEnvFile : Path := ⟨.here, [".env"]⟩

/-- What stands as `none` for a text is void: a separator has taken its place. -/
structure Settings where
  command : Command
  account : Option Text
  package : Option Text
  directory : Path := default
  rpc : Option Text
  /-- The outer option tells whether a token is given at all. -/
  token : Option (Option Text) := none
  envFile : Option Path := some defaultEnvFile
  verbose : Bool := false
  deriving DecidableEq

inductive Invocation where
  | run (s : Settings)
  | help (text : String)
  | refused (text : Text)
  deriving DecidableEq

namespace Settings

def lastGiven (given : List (Flag × Option Text)) (f : Flag) : Option (Option Text) :=
  (given.reverse.find? (·.1 = f)).map (·.2)

def ofReading (address : Text) (c : Command) (r : Grammar.Reading) : Settings :=
  let slot := fun (s : Slot) => (r.filled.lookup s).join
  { command := c
    account := slot accountSlot
    package := slot packageSlot
    directory := ((slot directorySlot).map Path.ofText).getD default
    rpc := (lastGiven r.given rpcFlag).getD (some address)
    token := lastGiven r.given tokenFlag
    envFile :=
      ((lastGiven r.given envFileFlag).map (·.map Path.ofText)).getD (some defaultEnvFile)
    verbose := r.given.any (·.1 == verboseFlag) }

end Settings

namespace Invocation

def refuse (usage program : String) (m : Misuse) : Invocation :=
  .refused (usage ++ program ++ ": error: " ++ m.message ++ "\n")

section

-- The node at this address is asked unless another is given.
variable (address : Text)

/-- Reads the words after a command. Words that nobody knows, before the command and after it, are
told last of all. -/
def ofCommand (extras : List Text) (c : Command) (args : List Text) : Invocation :=
  match c.grammar.read args with
  | .error .help => .help c.help
  | .error (.misuse m) => refuse c.usage c.program m
  | .ok r =>
    match extras ++ r.extras with
    | [] => .run (.ofReading address c r)
    | unknown => refuse usage programName (.unrecognized unknown)

def ofWords (extras : List Text) : List Text → Invocation
  | [] => refuse usage programName (.missing ["command"])
  | w :: rest =>
    let choose := fun name =>
      match Command.ofName? name with
      | some c => ofCommand address extras c rest
      | none =>
        refuse usage programName
          (.badChoice "command" name (Command.all.map fun c => Text.ofString c.name))
    if w = separator then
      if rest.isEmpty then refuse usage programName (.missing ["command"]) else choose w
    else
      match leadingGrammar.classify w with
      | .error m => refuse usage programName m
      | .ok .separator => choose w
      | .ok (.argument name) => choose name
      | .ok (.option text .unknown) => ofWords (extras ++ [text]) rest
      | .ok (.option _ (.known f isLong attached)) =>
        match Grammar.settings leadingGrammar none f isLong attached with
        | .ok _ => .help CommandLine.help
        | .error m => refuse usage programName m

def ofArgs (args : List Text) : Invocation :=
  ofWords address [] args

end

end Invocation

end MoveSkeleton.CommandLine
