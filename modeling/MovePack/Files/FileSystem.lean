/-
# A file system

A file system holds directories and regular files, each at a location: the names from the root to
it.  The root is always a directory.  A path is followed name by name, and every name but the last
must lead to a directory; a slash at the end demands one there, too.  The operations report the
first thing that stands in the way, in the order in which a system call meets it.
-/
import MovePack.Files.Path
import MovePack.Text.Encoding

namespace MovePack

/-- What stands in the way of an operation on files. -/
inductive FileError where
  /-- Nothing is there. -/
  | notFound
  /-- Something is there already. -/
  | alreadyExists
  /-- A directory is needed and something else is there. -/
  | notADirectory
  /-- A directory is there and something else is needed. -/
  | isADirectory
  /-- There is no room for more bytes. -/
  | noSpace
  /-- The path, or a name in it, is too long. -/
  | nameTooLong
deriving DecidableEq, Repr

namespace FileError

/-- The number of an error. -/
def number : FileError → Nat
  | .notFound => 2
  | .alreadyExists => 17
  | .notADirectory => 20
  | .isADirectory => 21
  | .noSpace => 28
  | .nameTooLong => 36

/-- The words for an error. -/
def description : FileError → String
  | .notFound => "No such file or directory"
  | .alreadyExists => "File exists"
  | .notADirectory => "Not a directory"
  | .isADirectory => "Is a directory"
  | .noSpace => "No space left on device"
  | .nameTooLong => "File name too long"

end FileError

/-- Why an operation on a path fails. -/
inductive AccessFault where
  /-- Something stands in the way. -/
  | refused (error : FileError) (path : Text)
  /-- The path holds the null character, which no name has. -/
  | nullCharacter
deriving DecidableEq, Repr

/-- The message of a failed operation. -/
def AccessFault.message : AccessFault → Text
  | .refused error path =>
    "[Errno " ++ Text.ofNat error.number ++ "] " ++ Text.ofString error.description ++ ": "
      ++ path.quoted
  | .nullCharacter => "embedded null byte"

/-- A location: the names from the root. -/
abbrev Location := List Text

/-- What is at a location. -/
inductive Entry where
  /-- A directory. -/
  | directory
  /-- A regular file. -/
  | file (content : Bytes)
deriving DecidableEq, Repr

/-- A file system with a working directory. -/
structure FileSystem where
  /-- What is at which location below the root. -/
  entries : List (Location × Entry)
  /-- The location at which relative paths start. -/
  workingDirectory : Location
  /-- The number of bytes of a file for which there is room, where room is short. -/
  room? : Option Nat := none
deriving Repr

namespace FileSystem

/-- What is at a location. -/
def find? (fs : FileSystem) (location : Location) : Option Entry :=
  if location = [] then some .directory else fs.entries.lookup location

/-- The file system with an entry at a location, in place of the one there. -/
def put (fs : FileSystem) (location : Location) (entry : Entry) : FileSystem :=
  { fs with entries := (location, entry) :: fs.entries.filter (·.1 ≠ location) }

/-- The file system with nothing at a location. -/
def erase (fs : FileSystem) (location : Location) : FileSystem :=
  { fs with entries := fs.entries.filter (·.1 ≠ location) }

/-- A directory is at the location. -/
def isDirectoryAt (fs : FileSystem) (location : Location) : Bool :=
  fs.find? location = some .directory

/-! ## Following paths -/

/-- The largest number of bytes of a name. -/
def maxNameBytes : Nat := 255

/-- The number of bytes that a path must stay below. -/
def maxPathBytes : Nat := 4096

/-- The number of bytes of a text in a path: those of its form in UTF-8, where a surrogate stands
for one byte that is part of no character. -/
def byteCount (t : Text) : Nat :=
  (t.map fun c => if c.isSurrogate then 1 else (Charset.bytesOf c).length).foldl (· + ·) 0

/-- The name is that of a directory itself. -/
def isDot (name : Text) : Bool := name.isEmpty || name = Text.ofString "."

/-- The name is that of the directory above. -/
def isDotDot (name : Text) : Bool := name = Text.ofString ".."

/-- The location that names lead to from another one. -/
def follow (fs : FileSystem) (location : Location) : List Text → Except FileError Location
  | [] => .ok location
  | name :: rest =>
    if !fs.isDirectoryAt location then .error .notADirectory
    else if isDot name then fs.follow location rest
    else if isDotDot name then fs.follow location.dropLast rest
    else if maxNameBytes < byteCount name then .error .nameTooLong
    else if (fs.find? (location ++ [name])).isNone then .error .notFound
    else fs.follow (location ++ [name]) rest

/-- The location at which a path starts. -/
def startOf (fs : FileSystem) (path : Text) : Location :=
  if Path.isAbsolute path then [] else fs.workingDirectory

/-- A path that is too short or too long is refused before it is followed. -/
def checkLength (path : Text) : Except FileError Unit :=
  if path.isEmpty then .error .notFound
  else if maxPathBytes ≤ byteCount path then .error .nameTooLong
  else .ok ()

/-- The location that a path leads to. -/
def locate (fs : FileSystem) (path : Text) : Except FileError Location := do
  checkLength path
  fs.follow (fs.startOf path) (Path.names path)

/-- The directory in which the last name of a path stands, and this name; slashes at the end do
not count. -/
def locateParent (fs : FileSystem) (path : Text) : Except FileError (Location × Text) := do
  checkLength path
  let names := Path.names (path.dropEndWhile (· = Path.slash))
  let parent ← fs.follow (fs.startOf path) names.dropLast
  if !fs.isDirectoryAt parent then throw .notADirectory
  return (parent, names.getLastD [])

/-- The path holds the null character. -/
def hasNull (path : Text) : Bool := path.any (·.toNat = 0)

/-- The outcome of an operation on a path. -/
def onPath {α : Type} (path : Text) (outcome : Except FileError α) : Except AccessFault α :=
  if hasNull path then .error .nullCharacter
  else
    match outcome with
    | .ok a => .ok a
    | .error error => .error (.refused error path)

/-- What a path leads to, if it leads to something. -/
def entryAt? (fs : FileSystem) (path : Text) : Option Entry :=
  if hasNull path then none
  else
    match fs.locate path with
    | .ok location => fs.find? location
    | .error _ => none

/-- The path leads to something. -/
def pathExists (fs : FileSystem) (path : Text) : Bool := (fs.entryAt? path).isSome

/-- The path leads to a directory. -/
def isDirectory (fs : FileSystem) (path : Text) : Bool := fs.entryAt? path = some .directory

/-- The path leads to a regular file. -/
def isFile (fs : FileSystem) (path : Text) : Bool :=
  match fs.entryAt? path with
  | some (.file _) => true
  | _ => false

/-! ## Files -/

/-- The content of the file that a path leads to. -/
def readAt (fs : FileSystem) (path : Text) : Except FileError Bytes := do
  match fs.find? (← fs.locate path) with
  | none => throw .notFound
  | some .directory => throw .isADirectory
  | some (.file content) => return content

/-- Reads a file. -/
def read (fs : FileSystem) (path : Text) : Except AccessFault Bytes :=
  onPath path (fs.readAt path)

/-- The location of a file that is opened to be written, which need not exist. -/
def locateForWriting (fs : FileSystem) (path : Text) : Except FileError Location := do
  let (parent, name) ← fs.locateParent path
  if path.endsWith "/" || isDot name || isDotDot name then throw .isADirectory
  if maxNameBytes < byteCount name then throw .nameTooLong
  let location := parent ++ [name]
  if fs.isDirectoryAt location then throw .isADirectory
  return location

/-- Removes the file that a path leads to, unless it leads nowhere. -/
def removeAt (fs : FileSystem) (path : Text) : Except FileError FileSystem :=
  match fs.locate path with
  | .error _ => .ok fs
  | .ok location =>
    if fs.isDirectoryAt location then .error .isADirectory else .ok (fs.erase location)

/-- There is room for a file with the content. -/
def hasRoom (fs : FileSystem) (content : Bytes) : Bool := fs.room?.all (content.length ≤ ·)

/-- As much of a content as there is room for. -/
def fitting (fs : FileSystem) (content : Bytes) : Bytes := fs.room?.elim content content.take

/-- The file system in which the file at a path has been replaced by one with the given content,
whatever room there is. -/
def placeAt (fs : FileSystem) (path : Text) (content : Bytes) : Except FileError FileSystem := do
  let cleared ← fs.removeAt path
  return cleared.put (← cleared.locateForWriting path) (.file content)

/-- The file system in which the file at a path has been replaced by one with the given
content. -/
def writeAt (fs : FileSystem) (path : Text) (content : Bytes) : Except FileError FileSystem := do
  let after ← fs.placeAt path content
  if !fs.hasRoom content then throw .noSpace
  return after

/-- Writes a file. -/
def write (fs : FileSystem) (path : Text) (content : Bytes) : Except AccessFault FileSystem :=
  onPath path (fs.writeAt path content)

/-- Replaces the file at a path step by step: the old one is removed first, and stays removed if the
new one cannot be opened.  Of a new one for which there is no room, a part is written. -/
def replaceAt (fs : FileSystem) (path : Text) (content : Bytes) :
    Except FileError Unit × FileSystem :=
  match fs.removeAt path with
  | .error error => (.error error, fs)
  | .ok cleared =>
    match cleared.locateForWriting path with
    | .error error => (.error error, cleared)
    | .ok location =>
      (if fs.hasRoom content then .ok () else .error .noSpace,
        cleared.put location (.file (fs.fitting content)))

/-- Replaces a file.  What has been done stays, also when it fails. -/
def replace (fs : FileSystem) (path : Text) (content : Bytes) :
    Except AccessFault Unit × FileSystem :=
  if hasNull path then (.error .nullCharacter, fs)
  else
    let (outcome, after) := fs.replaceAt path content
    (onPath path outcome, after)

/-! ## Directories -/

/-- The file system with a new directory at a path. -/
def makeDirectoryAt (fs : FileSystem) (path : Text) : Except FileError FileSystem := do
  let (parent, name) ← fs.locateParent path
  if isDot name || isDotDot name then throw .alreadyExists
  if maxNameBytes < byteCount name then throw .nameTooLong
  let location := parent ++ [name]
  if (fs.find? location).isSome then throw .alreadyExists
  return fs.put location .directory

/-- Makes a directory, unless there is one already. -/
def makeDirectory (fs : FileSystem) (path : Text) : Except AccessFault Unit × FileSystem :=
  match onPath path (fs.makeDirectoryAt path) with
  | .ok after => (.ok (), after)
  | .error fault =>
    if fault ≠ .nullCharacter ∧ fs.isDirectory path then (.ok (), fs) else (.error fault, fs)

/-- The path of the directory around the end of a path, and the name of the end; slashes at the
end do not count. -/
def splitPath (path : Text) : Text × Text :=
  match Path.baseName path with
  | [] => (Path.directoryName (Path.directoryName path), Path.baseName (Path.directoryName path))
  | name => (Path.directoryName path, name)

/-- Makes a directory and those around it that are missing.  What has been made stays, also when
one of them cannot be made.  Every path around another one is shorter, and `fuel` is its
length. -/
def makeDirectoriesFrom : (fuel : Nat) → FileSystem → Text → Except AccessFault Unit × FileSystem
  | 0, fs, path => fs.makeDirectory path
  | fuel + 1, fs, path =>
    let (around, name) := splitPath path
    if around.isEmpty || name.isEmpty || fs.pathExists around then fs.makeDirectory path
    else
      match makeDirectoriesFrom fuel fs around with
      | (.error (.refused .alreadyExists _), after) => finish after name path
      | (.error fault, after) => (.error fault, after)
      | (.ok (), after) => finish after name path
where
  /-- Makes the innermost directory, unless it is the one around it. -/
  finish (fs : FileSystem) (name path : Text) : Except AccessFault Unit × FileSystem :=
    if name = Text.ofString "." then (.ok (), fs) else fs.makeDirectory path

/-- Makes a directory and those around it that are missing. -/
def makeDirectories (fs : FileSystem) (path : Text) : Except AccessFault Unit × FileSystem :=
  makeDirectoriesFrom path.length fs path

/-! ## Listing -/

/-- The names in the directory at a location, with what they name, ascending. -/
def children (fs : FileSystem) (location : Location) : List (Text × Entry) :=
  let found := fs.entries.filterMap fun (l, entry) =>
    match l.getLast? with
    | some name => if l.dropLast = location then some (name, entry) else none
    | none => none
  found.mergeSort fun a b => Text.le a.1 b.1

/-- The largest number of names in a location. -/
def height (fs : FileSystem) : Nat := (fs.entries.map fun e => e.1.length).foldl max 0

end FileSystem

end MovePack
