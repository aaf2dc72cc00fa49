/-
# Tokens of a type signature

A type signature is cut into names, angle brackets and other characters.  A name begins with an
ASCII letter or an underscore and goes on as long as such characters and ASCII digits follow.
White space separates tokens and is not one.
-/
import MovePack.Text.Blank

namespace MovePack.Types

/-- A token of a type signature. -/
inductive Token where
  /-- A name. -/
  | name (text : Text)
  /-- The bracket `<`. -/
  | opening
  /-- The bracket `>`. -/
  | closing
  /-- Any other character. -/
  | other (c : CodePoint)
deriving DecidableEq, Repr

namespace Token

/-- The character can begin a name. -/
def startsName : CodePoint → Bool
  | .scalar c => c.isAlpha || c = '_'
  | .surrogate _ => false

/-- The character can stand in a name after its beginning. -/
def continuesName : CodePoint → Bool
  | .scalar c => c.isAlphanum || c = '_'
  | .surrogate _ => false

/-- The token of a character that begins no name. -/
def ofCharacter (c : CodePoint) : Token :=
  if c = .scalar '<' then .opening else if c = .scalar '>' then .closing else .other c

/-- The tokens of a text. -/
def scan : Text → List Token
  | [] => []
  | c :: rest =>
    if c.isBlank then scan rest
    else if startsName c then
      .name (c :: rest.takeWhile continuesName) :: scan (rest.dropWhile continuesName)
    else ofCharacter c :: scan rest
termination_by t => t.length
decreasing_by
  · simp
  · exact Nat.lt_succ_of_le (List.dropWhile_suffix continuesName).length_le
  · simp

end Token

end MovePack.Types
