import MoveSkeleton.CommandLine.Grammar
import MoveSkeleton.World

/-! The commands, their options and arguments, and the texts that explain them. -/
namespace MoveSkeleton.CommandLine

def programName : String := "aptos-mock"

inductive Command where
  | create
  | deps
  deriving DecidableEq

namespace Command

def all : List Command := [.create, .deps]

def name : Command → String
  | .create => "create"
  | .deps => "deps"

def ofName? (name : Text) : Option Command :=
  all.find? fun c => Text.ofString c.name = name

end Command

def rpcFlag : Flag := ⟨["-r", "--rpc"], true⟩

def tokenFlag : Flag := ⟨["-t", "--token"], true⟩

def envFileFlag : Flag := ⟨["--env-file"], true⟩

def verboseFlag : Flag := ⟨["-v", "--verbose"], false⟩

def accountSlot : Slot := ⟨"account", true⟩

def packageSlot : Slot := ⟨"package", true⟩

def directorySlot : Slot := ⟨"directory", false⟩

def Command.grammar (c : Command) : Grammar :=
  { flags := [Grammar.helpFlag, rpcFlag, tokenFlag, envFileFlag, verboseFlag]
    slots := match c with
      | .create => [accountSlot, packageSlot, directorySlot]
      | .deps => [accountSlot, packageSlot] }

def leadingGrammar : Grammar := ⟨[Grammar.helpFlag], []⟩

def commandChoices : String :=
  "\x7b" ++ String.intercalate "," (Command.all.map Command.name) ++ "\x7d"

def usage : String :=
  s!"usage: {programName} [-h] {commandChoices} ...\n"

def Command.program (c : Command) : String :=
  s!"{programName} {c.name}"

def Command.usage (c : Command) : String :=
  s!"usage: {c.program} [-h] [-r RPC] [-t TOKEN] [--env-file ENV_FILE] [-v] account package" ++
    (match c with
      | .create => " [directory]"
      | .deps => "") ++ "\n"

def help : String :=
  usage ++ "\n" ++
    "Rebuild a Move source skeleton for a package published on Aptos\n\n" ++
    "positional arguments:\n" ++
    s!"  {commandChoices}\n" ++
    "    create       Create a mock Aptos package\n" ++
    "    deps         Resolve and list transitive dependencies\n\n" ++
    "options:\n" ++
    "  -h, --help     show this help message and exit\n\n" ++
    "examples:\n" ++
    s!"  {programName} create 0x1 AptosStdlib ./output     " ++
    "Create a mock of the AptosStdlib package\n" ++
    s!"  {programName} create 0x1 AptosStdlib --token YOUR_TOKEN\n" ++
    "                                                 Create a mock with a Bearer token\n" ++
    s!"  {programName} deps 0xabc MyPackage                " ++
    "List the packages MyPackage depends on\n"

def Command.help (c : Command) : String :=
  c.usage ++ "\n" ++
    "positional arguments:\n" ++
    "  account               Account address\n" ++
    "  package               Package name\n" ++
    (match c with
      | .create => "  directory             Target directory\n"
      | .deps => "") ++ "\n" ++
    "options:\n" ++
    "  -h, --help            show this help message and exit\n" ++
    "  -r RPC, --rpc RPC     RPC URL\n" ++
    "  -t TOKEN, --token TOKEN\n" ++
    s!"                        Bearer token for API authentication (default: ${tokenVariable})\n" ++
    s!"  --env-file ENV_FILE   Optional .env file providing {tokenVariable}\n" ++
    "  -v, --verbose         Enable debug logging\n"

end MoveSkeleton.CommandLine
