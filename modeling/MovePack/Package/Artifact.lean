/-
# Artifacts

Compiled modules, bundles and transactions are files that are read and written as a whole.
-/
import MovePack.Files.FileSystem
import MovePack.LogEntry

namespace MovePack

/-- Why an artifact is not read or written. -/
inductive ArtifactFault where
  /-- The file cannot be read. -/
  | unreadable (path : Text) (error : FileError)
  /-- The file cannot be written. -/
  | unwritable (path : Text) (error : FileError)
  /-- The path holds the null character. -/
  | nullCharacter
deriving Repr

/-- The message of an artifact fault. -/
def ArtifactFault.message : ArtifactFault → Text
  | .unreadable path error =>
    "Failure to read filename " ++ path ++ ": " ++ Text.ofString error.description
  | .unwritable path error =>
    "Failure to write filename " ++ path ++ ": " ++ Text.ofString error.description
  | .nullCharacter => AccessFault.nullCharacter.message

namespace Artifact

/-- The content of the artifact at a path. -/
def read (fs : FileSystem) (path : Text) : Except ArtifactFault Bytes :=
  match fs.read path with
  | .ok content => .ok content
  | .error (.refused error _) => .error (.unreadable path error)
  | .error .nullCharacter => .error .nullCharacter

/-- Writes an artifact in place of the one at the path. -/
def write (fs : FileSystem) (path : Text) (content : Bytes) : Except ArtifactFault FileSystem :=
  match fs.write path content with
  | .ok after => .ok after
  | .error (.refused error _) => .error (.unwritable path error)
  | .error .nullCharacter => .error .nullCharacter

/-- Puts an artifact in place of the one at the path; the files are changed in any case. -/
def replace (fs : FileSystem) (path : Text) (content : Bytes) :
    Except ArtifactFault Unit × FileSystem :=
  match fs.replace path content with
  | (.ok (), after) => (.ok (), after)
  | (.error (.refused error _), after) => (.error (.unwritable path error), after)
  | (.error .nullCharacter, after) => (.error .nullCharacter, after)

/-- What is recorded when an artifact has been written. -/
def writtenEntry (path : Text) (content : Bytes) : LogEntry :=
  ⟨.info, "Wrote " ++ Text.ofNat content.length ++ " bytes to " ++ path⟩

end Artifact

end MovePack
