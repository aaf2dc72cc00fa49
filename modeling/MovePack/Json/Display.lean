/-
# JSON values in messages

Messages show a value in one line: the words `None`, `True` and `False`, numbers, strings between
quotes, elements between brackets and members between braces.
-/
import MovePack.Json.Basic
import MovePack.Number.Notation
import MovePack.Text.Quoted

namespace MovePack.Json

mutual

/-- The text of a value. -/
def display : Json → Text
  | .null => "None"
  | .bool b => Text.ofString (if b then "True" else "False")
  | .int i => Text.ofInt i
  | .float x => x.toText
  | .str t => t.quoted
  | .arr elements => "[" ++ Text.join ", " (displayElements elements) ++ "]"
  | .obj members => "\x7b" ++ Text.join ", " (displayMembers members) ++ "\x7d"

/-- The texts of elements. -/
def displayElements : List Json → List Text
  | [] => []
  | v :: rest => display v :: displayElements rest

/-- The texts of members. -/
def displayMembers : List (Text × Json) → List Text
  | [] => []
  | (name, v) :: rest => (name.quoted ++ ": " ++ display v) :: displayMembers rest

end

/-- The text of a value in a sentence, where a string stands without quotes. -/
def plain : Json → Text
  | .str t => t
  | v => display v

end MovePack.Json
