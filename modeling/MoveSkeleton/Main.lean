import MoveSkeleton.CommandLine.Run
import MoveSkeleton.Node.Record

/-! The program. The answers of the node are on record and read from the standard input; what the
run writes is written to the machine's disk once it has ended. No progress is displayed, and what the
machine does not let the program look at counts as missing. -/
namespace MoveSkeleton.Main

def look (p : Path) : IO (Option Tree) := do
  try
    return some (.file (← IO.FS.readBinFile p.text.shown))
  catch
    | .inappropriateType _ number _ =>
      return if number.toNat = DiskLapse.isFolder.number then some .empty else none
    | _ => return none

def load (d : Disk) (p : Path) : IO Disk :=
  (List.range (p.parts.length + 1)).foldlM (fun d n => do
    let q := { p with parts := p.parts.take n }
    match ← look q with
    | none => return d
    | some (.file content) => return ((Disk.writeFile q content).run.run d).2
    | some (.folder _) => return ((Disk.ensureFolders q).run.run d).2) d

def consulted (s : CommandLine.Settings) : List Path :=
  s.envFile.toList ++ match s.command with
  | .create => [s.directory.join s.root.name]
  | .deps => []

def recordedNode (text : String) : IO Node :=
  match Json.read text with
  | .error fault => throw (IO.userError s!"answers on record: {fault.message}")
  | .ok v =>
    match Node.ofRecord? v with
    | none => throw (IO.userError "answers on record: not an object of answers")
    | some n => return n

def found (s : CommandLine.Settings) : IO World := do
  let node ← recordedNode (← (← IO.getStdin).readToEnd)
  let here := (Path.ofText (toString (← IO.currentDir))).parts
  let disk ← (consulted s).foldlM load (Disk.blank here)
  return { node, disk }

/-- Removes from the machine what a run has removed, and then writes what it has written. -/
def store (before : Disk) (after : World) : IO Unit := do
  for e in after.events do
    if let .removing folder := e then
      if (before.isFolder? folder).toOption.getD false then
        IO.FS.removeDirAll folder.text.shown
  let known := before.root.sortedListing
  for (path, content) in after.disk.root.sortedListing do
    match content with
    | none => IO.FS.createDirAll (Anchor.root.text ++ path.shown)
    | some bytes =>
      unless known.contains (path, content) do
        IO.FS.writeBinFile (Anchor.root.text ++ path.shown) bytes

def surroundings : IO CommandLine.Surroundings := do
  let environment ← [tokenVariable, CommandLine.addressVariable].filterMapM fun name => do
    return (← IO.getEnv name).map fun (value : String) => ((name, value) : Text × Text)
  let columns := ((← IO.getEnv "COLUMNS").bind String.toNat?).getD 80
  return { CommandLine.Surroundings.ofEnvironment environment with screen := { columns } }

def run (args : List String) : IO UInt32 := do
  let args := args.map Text.ofString
  let u ← surroundings
  let before : World ← match CommandLine.Invocation.ofArgs u.address args with
    | .run s => found s
    | _ => pure { node := [], disk := Disk.blank [] }
  let (ending, after) := CommandLine.perform args u before
  (← IO.getStdout).putStr after.printed.shown
  for e in after.events.filter (CommandLine.isNoted args u) do
    IO.eprintln s!"{e.level.name} {e.message}"
  store before.disk after
  match ending with
  | .exit status errors =>
    (← IO.getStderr).putStr errors.shown
    return status.toUInt32
  | .escaped why =>
    IO.eprintln s!"{why.report.label}: {why.message}"
    return 1

end MoveSkeleton.Main

def main (args : List String) : IO UInt32 :=
  MoveSkeleton.Main.run args
