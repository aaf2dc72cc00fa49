/-
# The program

The outermost layer: it takes the files that a command line is about from the disk, runs the
command line on them, and brings back what has changed.  Neither other programs nor nodes are
reached from here, so the Move tool counts as not installed and every connection fails.
-/
import MovePack.Command.Report

namespace MovePack.Program

/-- The string of a text.  A surrogate, which no output can carry, becomes U+FFFD. -/
def stringOf (t : Text) : String := String.ofList (t.map fun c => c.toChar?.getD '\uFFFD')

/-- The path of a location. -/
def pathOf (location : Location) : String := stringOf (Path.ofNames location)

/-- What the disk holds at a location. -/
def onDisk (location : Location) : IO.FS.DirEntry :=
  ⟨pathOf location.dropLast, stringOf (location.getLast?.getD [])⟩

/-- Adds what is at a location of the disk, and all below it.  Links to directories are not
followed, and what cannot be read is left out. -/
partial def observe (fs : FileSystem) (location : Location) : IO FileSystem := do
  let path := (onDisk location).path
  match ← path.symlinkMetadata.toBaseIO with
  | .error _ => return fs
  | .ok found =>
    match found.type with
    | .dir =>
      let children := (← path.readDir.toBaseIO).toOption.getD #[]
      children.foldlM (fun fs child => observe fs (location ++ [Text.ofString child.fileName]))
        (fs.put location .directory)
    | .other => return fs
    | _ =>
      match ← (IO.FS.readBinFile path).toBaseIO with
      | .ok content => return fs.put location (.file content.toList)
      | .error _ => return fs

/-- Adds the directories on the way to a location. -/
def observeWay (fs : FileSystem) (location : Location) : IO FileSystem :=
  ((List.range location.length).map location.take).foldlM (fun fs location => do
    match ← (onDisk location).path.metadata.toBaseIO with
    | .ok found => return if found.type matches .dir then fs.put location .directory else fs
    | .error _ => return fs) fs

/-- The files that the given paths lead to. -/
def filesAt (paths : List Text) : IO FileSystem := do
  let here := Path.location [] (Text.ofString (← IO.currentDir).toString)
  (paths.map (Path.location here)).foldlM (fun fs location => do
    observe (← observeWay fs location) location)
      { entries := [], workingDirectory := here }

/-- Brings the changes of files to the disk. -/
def bringBack (before after : FileSystem) : IO Unit := do
  for (location, entry) in after.entries.reverse do
    if before.find? location ≠ some entry then
      match entry with
      | .directory => IO.FS.createDirAll (pathOf location)
      | .file content => IO.FS.writeBinFile (pathOf location) ⟨content.toArray⟩
  for (location, _) in before.entries do
    if (after.find? location).isNone then IO.FS.removeFile (pathOf location)

/-- The setting in an environment variable. -/
def setting? (name : String) : IO (Option Text) := return (← IO.getEnv name).map Text.ofString

/-- The workspace with the files at the given paths. -/
def workspaceAt (paths : List Text) : IO Workspace := do
  return {
    files := ← filesAt paths
    tool := { path := (← setting? "MOVE_CLI_PATH").getD "move" }
    nodeUrl := (← setting? "SMOVE_NODE_URL").getD Workspace.usualNodeUrl
    timeoutSetting? := ← setting? "SMOVE_RPC_TIMEOUT"
    replies := [.failure "ConnectError" "All connection attempts failed"] }

/-- Shows a report and returns its status. -/
def present (report : Report) : IO UInt32 := do
  IO.print (stringOf report.output)
  IO.eprint (stringOf report.errorOutput)
  return report.status.toUInt32

end MovePack.Program

open MovePack in
/-- Runs a command line. -/
def main (args : List String) : IO UInt32 := do
  match Invocation.ofWords (args.map Text.ofString) with
  | .error stop => Program.present (Report.ofStop stop)
  | .ok invocation =>
    let workspace ← Program.workspaceAt invocation.command.paths
    let (outcome, after) := invocation.run workspace
    Program.bringBack workspace.files after.files
    match outcome with
    | .ok report => Program.present report
    | .error failure =>
      IO.eprintln (Program.stringOf failure.message)
      return 1
