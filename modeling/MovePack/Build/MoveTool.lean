/-
# The tool that builds packages

Packages are compiled by a separate program, the Move tool.  It is given by its path, whether it
is there, and what a run of it comes to: an exit code, two outputs, which are bytes that must be
texts, and what it makes of the files.
-/
import MovePack.Files.FileSystem
import MovePack.LogEntry
import MovePack.Text.Blank

namespace MovePack

/-- The Move tool. -/
structure MoveTool where
  /-- The path of the program, or its name. -/
  path : Text := "move"
  /-- The program is there. -/
  isInstalled : Bool := false
  /-- The exit code of a run. -/
  exitCode : Int := 0
  /-- What a run writes to its output. -/
  output : Text := []
  /-- What a run writes to its error output. -/
  errorOutput : Text := []
  /-- Why the bytes that a run writes are no texts, if they are none. -/
  undecodable? : Option DecodeFault := none
  /-- What a run makes of the files when it builds the package in a directory. -/
  effect : (directory : Text) → FileSystem → FileSystem := fun _ fs => fs

/-- Why a run of the tool fails. -/
inductive ToolFault where
  /-- The program is not there. -/
  | missing (path : Text)
  /-- The run has ended with an exit code other than zero. -/
  | failed (command : List Text) (exitCode : Int) (output : Text)
  /-- The run has written bytes that are no text. -/
  | undecodable (fault : DecodeFault)
deriving Repr

/-- The words of a command with spaces between them. -/
def commandText (command : List Text) : Text := Text.join " " command

/-- The message of a failed run. -/
def ToolFault.message : ToolFault → Text
  | .missing path =>
    "Move CLI not found at " ++ path.quoted ++ ", set MOVE_CLI_PATH to its location"
  | .failed command exitCode output =>
    "\x60" ++ commandText command ++ "\x60 failed with exit code " ++ Text.ofInt exitCode ++ ":\n"
      ++ output
  | .undecodable fault => fault.message

/-- A run of the tool. -/
structure ToolRun where
  /-- The command, if it has been run. -/
  command? : Option (List Text)
  /-- The output, or why the run has failed. -/
  outcome : Except ToolFault Text
  /-- The log of the run. -/
  log : List LogEntry

namespace MoveTool

/-- Both outputs of a run, one after the other, without blank ends. -/
def combinedOutput (tool : MoveTool) : Text :=
  (Text.join "\n" ([tool.output, tool.errorOutput].filter (!·.isEmpty))).trim

/-- Runs the tool with the given arguments. -/
def run (tool : MoveTool) (arguments : List Text) : ToolRun :=
  if !tool.isInstalled then ⟨none, .error (.missing tool.path), []⟩
  else
    let command := tool.path :: arguments
    let started : LogEntry := ⟨.info, "Running " ++ commandText command⟩
    match tool.undecodable? with
    | some fault => ⟨some command, .error (.undecodable fault), [started]⟩
    | none =>
      if tool.exitCode ≠ 0 then
        ⟨some command, .error (.failed command tool.exitCode tool.combinedOutput), [started]⟩
      else ⟨some command, .ok tool.output, [started, ⟨.debug, tool.output⟩]⟩

/-- Builds the package in a directory. -/
def build (tool : MoveTool) (directory : Text) : ToolRun := tool.run ["build", "--path", directory]

/-- The files after the package in a directory has been built, if it could be tried. -/
def filesAfter (tool : MoveTool) (directory : Text) (fs : FileSystem) : FileSystem :=
  if tool.isInstalled then tool.effect directory fs else fs

end MoveTool

end MovePack
