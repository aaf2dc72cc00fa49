/-
# Text as code points

Every text the library reads or writes is a list of code points.  A JSON escape such as
`\ud800` can name a single surrogate, which no encoding form of Unicode can carry but which
may well occur in a literal, in a reply of a node and in the message that refuses it.  A code
point is therefore either a scalar value (a `Char`) or a surrogate, and texts are compared
code point by code point.
-/

namespace MovePack

/-- A Unicode code point: a scalar value, or one of the 2048 surrogates. -/
inductive CodePoint where
  /-- A scalar value. -/
  | scalar (c : Char)
  /-- The surrogate `0xD800 + offset`. -/
  | surrogate (offset : Fin 0x800)
deriving DecidableEq, Repr

namespace CodePoint

instance : Coe Char CodePoint := ⟨.scalar⟩

instance : Inhabited CodePoint := ⟨.scalar 'a'⟩

/-- The number of the code point, from `0` to `0x10FFFF`. -/
def toNat : CodePoint → Nat
  | .scalar c => c.toNat
  | .surrogate offset => 0xD800 + offset

/-- The code point with the given number, if there is one. -/
def ofNat? (n : Nat) : Option CodePoint :=
  if h : n.isValidChar then some (.scalar (Char.ofNatAux n h))
  else if h : 0xD800 ≤ n ∧ n - 0xD800 < 0x800 then some (.surrogate ⟨n - 0xD800, h.2⟩)
  else none

/-- The character of a scalar value. -/
def toChar? : CodePoint → Option Char
  | .scalar c => some c
  | .surrogate _ => none

/-- The digit a character stands for in hexadecimal notation, in either case. -/
def hexDigit? : CodePoint → Option Nat
  | .scalar c =>
    if '0' ≤ c ∧ c ≤ '9' then some (c.toNat - '0'.toNat)
    else if 'a' ≤ c ∧ c ≤ 'f' then some (c.toNat - 'a'.toNat + 10)
    else if 'A' ≤ c ∧ c ≤ 'F' then some (c.toNat - 'A'.toNat + 10)
    else none
  | .surrogate _ => none

/-- The value of one of the ten ASCII digits. -/
def asciiDigit? : CodePoint → Option Nat
  | .scalar c => if '0' ≤ c ∧ c ≤ '9' then some (c.toNat - '0'.toNat) else none
  | .surrogate _ => none

/-- A code point below `0x80`. -/
def isAscii (c : CodePoint) : Bool := c.toNat < 0x80

/-- A surrogate, which no text encoding can carry on its own. -/
def isSurrogate : CodePoint → Bool
  | .scalar _ => false
  | .surrogate _ => true

/-- The character that a high and a low surrogate stand for together. -/
def joined? : CodePoint → CodePoint → Option CodePoint
  | .surrogate high, .surrogate low =>
    if high.val < 0x400 ∧ 0x400 ≤ low.val then
      some (.scalar (Char.ofNat (0x10000 + high.val * 0x400 + (low.val - 0x400))))
    else none
  | _, _ => none

end CodePoint

/-- A text: a list of code points. -/
abbrev Text := List CodePoint

namespace Text

/-- The text of a string. -/
def ofString (s : String) : Text := s.toList.map .scalar

instance : Coe String Text := ⟨ofString⟩

/-- The string of a text without surrogates. -/
def toString? (t : Text) : Option String :=
  (t.mapM CodePoint.toChar?).map String.ofList

/-- The decimal notation of a natural number. -/
def ofNat (n : Nat) : Text := ofString (toString n)

/-- The decimal notation of an integer. -/
def ofInt (i : Int) : Text := ofString (toString i)

/-- The largest number of decimal digits of an integer that is shown. -/
def maxShownDigits : Nat := 4300

/-- The message where an integer has too many digits to be shown. -/
def digitLimit : Text :=
  ofString "Exceeds the limit (" ++ ofNat maxShownDigits
    ++ ofString (" digits) for integer string conversion; use sys.set_int_max_str_digits() to"
      ++ " increase the limit")

/-- The decimal notation of an integer, unless it has too many digits. -/
def shown? (i : Int) : Option Text :=
  if Nat.pow 10 maxShownDigits ≤ i.natAbs then none else some (ofInt i)

/-- The texts of a list, one after the other, with a separator between neighbours. -/
def join (separator : Text) : List Text → Text
  | [] => []
  | [t] => t
  | t :: rest => t ++ separator ++ join separator rest

/-- Order by the numbers of the code points, from the first place where two texts differ. -/
def compare : Text → Text → Ordering
  | [], [] => .eq
  | [], _ :: _ => .lt
  | _ :: _, [] => .gt
  | a :: s, b :: t => (Ord.compare a.toNat b.toNat).then (compare s t)

/-- The text does not come after the other in code point order. -/
def le (s t : Text) : Bool := (compare s t).isLE

/-- The text begins with the given string. -/
def startsWith (t : Text) (beginning : String) : Bool := (ofString beginning).isPrefixOf t

/-- The text ends with the given string. -/
def endsWith (t : Text) (ending : String) : Bool := (ofString ending).isSuffixOf t

/-- What follows the given beginning, if the text has it. -/
def dropPrefix? (t : Text) (beginning : String) : Option Text :=
  if t.startsWith beginning then some (t.drop beginning.length) else none

/-- The text before and after the first occurrence of a character, or `none` without one. -/
def splitFirst? (c : Char) : Text → Option (Text × Text)
  | [] => none
  | x :: rest =>
    if x = .scalar c then some ([], rest)
    else (splitFirst? c rest).map fun (before, after) => (x :: before, after)

/-- The parts of a text between all occurrences of a character. -/
def splitAll (c : Char) : Text → List Text
  | [] => [[]]
  | x :: rest =>
    if x = .scalar c then [] :: splitAll c rest
    else
      match splitAll c rest with
      | part :: parts => (x :: part) :: parts
      | [] => [[x]]

/-- The text without the given code points at its end. -/
def dropEndWhile (drops : CodePoint → Bool) (t : Text) : Text :=
  (t.reverse.dropWhile drops).reverse

end Text

end MovePack
