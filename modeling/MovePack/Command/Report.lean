/-
# Running a command line

A command line is read and its command performed.  A run ends with a status: 0 if all went well, 1
if the command has failed, 2 if the words make no command.  What is worth showing of the log and
what has gone wrong go to the error output.
-/
import MovePack.Command.Grammar
import MovePack.Command.Perform

namespace MovePack

/-- What is to be seen of a run. -/
structure Report where
  /-- The status. -/
  status : Nat
  /-- The output. -/
  output : Text
  /-- The error output. -/
  errorOutput : Text
deriving DecidableEq

/-- The number of a level, ascending with importance. -/
def LogLevel.rank : LogLevel → Nat
  | .debug => 0
  | .info => 1
  | .warning => 2

namespace Report

/-- The lines, each with its end. -/
def lines (ts : List Text) : Text := ts.flatMap fun t => t ++ "\n"

/-- The entry is shown at a verbosity. -/
def isShown (verbosity : Nat) (entry : LogEntry) : Bool := 2 ≤ entry.level.rank + verbosity

/-- The lines of a log, which has its last entry first, that are shown at a verbosity. -/
def logLines (verbosity : Nat) (log : List LogEntry) : Text :=
  lines ((log.reverse.filter (isShown verbosity)).map LogEntry.toText)

/-- What is recorded when a command has failed. -/
def failureEntry : LogEntry := ⟨.debug, "Command failed"⟩

/-- The report of a command that has ended well. -/
def ofSuccess (verbosity : Nat) (w : Workspace) : Report :=
  ⟨0, lines w.shown.reverse, logLines verbosity w.log⟩

/-- The report of a command that has failed in a way that commands report. -/
def ofFailure (verbosity : Nat) (failure : Failure) (w : Workspace) : Report :=
  ⟨1, lines w.shown.reverse, logLines verbosity w.log ++ lines ["Error: " ++ failure.message]⟩

/-- The report of a command line that makes no command. -/
def ofStop : Options.Stop → Report
  | .misused command problem => ⟨2, [], lines [Options.usageMessage command problem]⟩
  | .help => ⟨0, [], []⟩

end Report

/-- Performs the command of an invocation.  A failure that no command reports stays a failure. -/
def Invocation.run (invocation : Invocation) (w : Workspace) : Except Failure Report × Workspace :=
  match (invocation.command.perform.run).run w with
  | (.ok (), w) => (.ok (Report.ofSuccess invocation.verbosity w), w)
  | (.error failure, w) =>
    if failure.isReported then
      let w := { w with log := Report.failureEntry :: w.log }
      (.ok (Report.ofFailure invocation.verbosity failure w), w)
    else (.error failure, w)

/-- Runs a command line. -/
def Workspace.run (w : Workspace) (words : List Text) : Except Failure Report × Workspace :=
  match Invocation.ofWords words with
  | .error stop => (.ok (Report.ofStop stop), w)
  | .ok invocation => invocation.run w

end MovePack
