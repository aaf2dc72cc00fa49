/-
# What a command works on

A command reads and writes files, runs the Move tool, asks a node, shows lines of text and records
what it does.  All of this is one value, the workspace.  When a command fails, what it has done
before stays done.
-/
import MovePack.Build.MoveTool
import MovePack.Bundle.ModuleBundle
import MovePack.Node.Session
import MovePack.Node.Timeout
import MovePack.Package.Artifact
import MovePack.Package.Layout
import MovePack.Script.Transaction

namespace MovePack

/-- The address of the node where nothing else is said. -/
def Workspace.usualNodeUrl : Text := "http://localhost:9944/"

/-- What a command works on. -/
structure Workspace where
  /-- The files. -/
  files : FileSystem
  /-- The tool that builds packages. -/
  tool : MoveTool := {}
  /-- The address of the node where none is given. -/
  nodeUrl : Text := Workspace.usualNodeUrl
  /-- The setting of the timeout of requests. -/
  timeoutSetting? : Option Text := none
  /-- What the node will answer. -/
  replies : List Reply := []
  /-- The bodies of the requests that have been sent, the last one first. -/
  sent : List Text := []
  /-- The commands of the tool that have been run, the last one first. -/
  toolCommands : List (List Text) := []
  /-- The lines that have been shown, the last one first. -/
  shown : List Text := []
  /-- The log, the last entry first. -/
  log : List LogEntry := []

/-- Why a command fails. -/
inductive Failure where
  /-- The package cannot be opened. -/
  | opening (fault : OpenFault)
  /-- The manifest does not help. -/
  | manifest (fault : ManifestFault)
  /-- There is no place for the output. -/
  | output (fault : OutputFault)
  /-- A file cannot be read or written. -/
  | artifact (fault : ArtifactFault)
  /-- The package cannot be built. -/
  | tool (fault : ToolFault)
  /-- There are no compiled modules in a directory. -/
  | noModules (directory : Text)
  /-- A file is no compiled module. -/
  | integrity (fault : Bytecode.IntegrityFault)
  /-- Modules depend on each other. -/
  | cycle (fault : Bundle.CycleFault)
  /-- An argument of a script cannot be encoded. -/
  | argument (fault : ArgFault)
  /-- There is no transaction for a script. -/
  | transaction (fault : TransactionFault)
  /-- An output cannot be serialized. -/
  | serialization (fault : Codec.WriteFault)
  /-- The timeout is refused. -/
  | timeout (fault : TimeoutFault)
  /-- The node does not answer. -/
  | node (fault : NodeFault)
  /-- A line cannot be shown. -/
  | unshown (fault : EncodeFault)
  /-- The option for a path is given without one. -/
  | missingPath
  /-- The option for the address of the node is given without one. -/
  | missingUrl

namespace Failure

/-- The message of a failure. -/
def message : Failure → Text
  | .opening fault => fault.message
  | .manifest fault => fault.message
  | .output fault => fault.message
  | .artifact fault => fault.message
  | .tool fault => fault.message
  | .noModules directory => "No compiled modules found under " ++ directory
  | .integrity fault => fault.message
  | .cycle fault => fault.message
  | .argument fault => fault.message
  | .transaction fault => fault.message
  | .serialization fault => fault.message
  | .timeout fault => fault.message
  | .node fault => fault.message
  | .unshown fault => fault.message
  | .missingPath => "expected str, bytes or os.PathLike object, not list"
  | .missingUrl =>
    "Invalid type for url.  Expected str or httpx.URL, got <class 'list'>: []"

/-- The failure is one that a command reports; others end the program at once. -/
def isReported : Failure → Bool
  | .opening _ => false
  | .manifest (.unshownName _) => false
  | .output (.manifest (.unshownName _)) => false
  | .output (.directory _) => false
  | .artifact .nullCharacter => false
  | .tool (.undecodable _) => false
  | .node (.reply (.tooDeep _)) => false
  | .node (.reply (.notBegun ..)) => false
  | .node (.url _) => false
  | .node (.host _) => false
  | .node (.unnamedHost _) => false
  | .node (.relativeUrl _) => false
  | .serialization (.foreign _) => false
  | .unshown _ => false
  | .missingPath => false
  | .missingUrl => false
  | _ => true

end Failure

/-- Work on a workspace, which may fail. -/
abbrev Work := ExceptT Failure (StateM Workspace)

namespace Work

/-- The outcome, with a fault as the reason of a failure. -/
def orFail {ε α : Type} (reason : ε → Failure) : Except ε α → Work α
  | .ok a => pure a
  | .error fault => throw (reason fault)

/-- The path that an option is given with. -/
def givenPath (path? : Option Text) : Work Text :=
  orFail (fun _ => .missingPath) (path?.elim (.error ()) .ok)

/-- Records entries, the first one first. -/
def record (entries : List LogEntry) : Work Unit :=
  modify fun w => { w with log := entries.reverse ++ w.log }

/-- Shows a line of text, which must have a form in UTF-8. -/
def display (line : Text) : Work Unit := do
  let _ ← orFail .unshown (Utf8.encode line)
  modify fun w => { w with shown := line :: w.shown }

/-- The content of a file. -/
def read (path : Text) : Work Bytes := do
  orFail .artifact (Artifact.read (← get).files path)

/-- Writes a file; the files are changed in any case. -/
def write (path : Text) (content : Bytes) : Work Unit := do
  let (outcome, files) := Artifact.replace (← get).files path content
  modify fun w => { w with files }
  orFail .artifact outcome
  record [Artifact.writtenEntry path content]

/-- The path that a change of the files leads to; the files are changed in any case. -/
def outputPath (find : FileSystem → Except OutputFault Text × FileSystem) : Work Text := do
  let (path, files) := find (← get).files
  modify fun w => { w with files }
  orFail .output path

/-- Builds the package in a directory; the files are changed in any case. -/
def build (directory : Text) : Work Unit := do
  let tool := (← get).tool
  let run := tool.build directory
  modify fun w =>
    { w with
      files := tool.filesAfter directory w.files
      toolCommands := run.command?.toList ++ w.toolCommands }
  record run.log
  let _ ← orFail .tool run.outcome

/-- Asks the node at an address. -/
def ask (url : Text) (q : Query) : Work Finding := do
  let w ← get
  let (outcome, session) := Session.ask ⟨url, w.replies, w.sent, w.log⟩ q
  modify fun w =>
    { w with replies := session.replies, sent := session.sent, log := session.log }
  orFail .node outcome

end Work

end MovePack
