/-
# Writing JSON texts

A value is written without any white space.  In strings the quote, the backslash and the control
characters below `U+0020` are escaped, by a letter where there is one; all other characters stand
for themselves.
-/
import MovePack.Json.Basic
import MovePack.Number.Notation
import MovePack.Text.Quoted

namespace MovePack.Json

/-- The written form of a character in a string. -/
def escaped (c : CodePoint) : Text :=
  if c = .scalar '\x22' then "\x5c\x22"
  else if c = .scalar '\x5c' then "\x5c\x5c"
  else if c = .scalar '\n' then "\x5cn"
  else if c = .scalar '\r' then "\x5cr"
  else if c = .scalar '\t' then "\x5ct"
  else if c = .scalar '\x08' then "\x5cb"
  else if c = .scalar '\x0c' then "\x5cf"
  else if c.toNat < 0x20 then "\x5cu" ++ hexNumeral 4 c.toNat
  else [c]

/-- The written form of a string. -/
def stringText (t : Text) : Text := Text.between '\x22' (t.flatMap escaped)

mutual

/-- The written form of a value. -/
def compact : Json → Text
  | .null => "null"
  | .bool b => Text.ofString (if b then "true" else "false")
  | .int i => Text.ofInt i
  | .float x => x.toText
  | .str t => stringText t
  | .arr elements => "[" ++ Text.join "," (compactElements elements) ++ "]"
  | .obj members => "\x7b" ++ Text.join "," (compactMembers members) ++ "\x7d"

/-- The written forms of elements. -/
def compactElements : List Json → List Text
  | [] => []
  | v :: rest => compact v :: compactElements rest

/-- The written forms of members. -/
def compactMembers : List (Text × Json) → List Text
  | [] => []
  | (name, v) :: rest => (stringText name ++ ":" ++ compact v) :: compactMembers rest

end

end MovePack.Json
