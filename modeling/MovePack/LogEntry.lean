/-
# Log entries

What a command does is recorded in entries of three levels of importance.
-/
import MovePack.Text.CodePoint

namespace MovePack

/-- The importance of a log entry. -/
inductive LogLevel where
  /-- A detail. -/
  | debug
  /-- A step of the work. -/
  | info
  /-- Something unexpected that does not stop the work. -/
  | warning
deriving DecidableEq, Repr

/-- The name of a level. -/
def LogLevel.name : LogLevel → String
  | .debug => "DEBUG"
  | .info => "INFO"
  | .warning => "WARNING"

/-- A log entry. -/
structure LogEntry where
  /-- The importance. -/
  level : LogLevel
  /-- What is said. -/
  message : Text
deriving DecidableEq, Repr

/-- The line of a log entry: the level, a colon and the message. -/
def LogEntry.toText (entry : LogEntry) : Text := entry.level.name ++ ": " ++ entry.message

end MovePack
