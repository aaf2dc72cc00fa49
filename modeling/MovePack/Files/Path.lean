/-
# Paths

A path is a text of names separated by slashes.  A path that begins with a slash starts at the
root, any other in the working directory.  The functions here work on the text alone and do not
look at files.
-/
import MovePack.Text.CodePoint

namespace MovePack.Path

/-- The slash between names. -/
def slash : CodePoint := .scalar '/'

/-- The path starts at the root. -/
def isAbsolute (path : Text) : Bool := path.startsWith "/"

/-- The names of a path: the parts between slashes, which may be empty. -/
def names : Text → List Text
  | [] => [[]]
  | c :: rest =>
    if c = slash then [] :: names rest
    else
      match names rest with
      | [] => [[c]]
      | name :: others => (c :: name) :: others

/-- A path below another one; an absolute path stays as it is. -/
def join (base path : Text) : Text :=
  if isAbsolute path then path
  else if base.isEmpty || base.endsWith "/" then base ++ path
  else base ++ slash :: path

/-- What follows the last slash. -/
def baseName (path : Text) : Text := (path.reverse.takeWhile (· ≠ slash)).reverse

/-- The path without the slashes at its end, unless it has nothing else. -/
def dropSlashes (path : Text) : Text :=
  match path.dropEndWhile (· = slash) with
  | [] => path
  | rest => rest

/-- What precedes the last slash, without further slashes at its end. -/
def directoryName (path : Text) : Text :=
  dropSlashes (path.reverse.dropWhile (· ≠ slash)).reverse

/-- A name without its extension: the last dot and what follows it.  Dots at the beginning of a
name begin no extension. -/
def stem (name : Text) : Text :=
  let dots := name.takeWhile (· = .scalar '.')
  let body := name.drop dots.length
  match (body.reverse.dropWhile (· ≠ .scalar '.')).drop 1 with
  | [] => name
  | shortened => dots ++ shortened.reverse

/-- The names a path leads through from the root when it is followed after others: empty names
and single dots are left out, and two dots take away the name before them. -/
def follow (before : List Text) (names : List Text) : List Text :=
  names.foldl
    (fun location name =>
      if name.isEmpty || name = Text.ofString "." then location
      else if name = Text.ofString ".." then location.dropLast
      else location ++ [name])
    before

/-- The names from the root to the end of a path in a working directory. -/
def location (workingDirectory : List Text) (path : Text) : List Text :=
  follow (if isAbsolute path then [] else workingDirectory) (names path)

/-- The path from the root along the given names. -/
def ofNames (names : List Text) : Text := slash :: Text.join [slash] names

/-- The shortest path from the root. -/
def real (workingDirectory : List Text) (path : Text) : Text :=
  ofNames (location workingDirectory path)

/-- The shortest path from the root, which keeps exactly two slashes at its beginning. -/
def absolute (workingDirectory : List Text) (path : Text) : Text :=
  if path.startsWith "//" && !path.startsWith "///" then slash :: real workingDirectory path
  else real workingDirectory path

end MovePack.Path
