/-
# Labels of domain names

A label is one part of a domain name between two dots.  It is normal, has no hyphens where they
would be misleading, and consists of permitted characters; a few others may stand next to certain
neighbours.  If some of its characters are written from right to left, the directions must keep the
rules that make the order of the characters clear.  In ASCII a label with other characters stands
as `xn--` and its Punycode.
-/
import MovePack.Domain.Permitted
import MovePack.Domain.Punycode
import MovePack.Text.Direction
import MovePack.Text.Joining
import MovePack.Text.LowerCase
import MovePack.Text.Normal
import MovePack.Text.Quoted
import MovePack.Text.Script

namespace MovePack.Domain

/-! ## Faults -/

/-- Why the directions in a label are refused. -/
inductive DirectionFault where
  /-- The direction of the character at a position is not known. -/
  | unknown (label : Text) (position : Nat)
  /-- The first character is no letter. -/
  | beginning (label : Text)
  /-- The character at a position cannot stand in a label that runs from right to left. -/
  | inRightToLeft (position : Nat)
  /-- Digits of both kinds stand in a label that runs from right to left. -/
  | mixedNumbers
  /-- The character at a position cannot stand in a label that runs from left to right. -/
  | inLeftToRight (position : Nat)
  /-- The last character, apart from marks, cannot be the last one. -/
  | ending
deriving DecidableEq, Repr

/-- Why a label is refused. -/
inductive LabelFault where
  /-- There is nothing in the label. -/
  | empty
  /-- The label is too long. -/
  | tooLong
  /-- The label is not normal. -/
  | notNormal
  /-- The third and the fourth character are hyphens. -/
  | hyphenPair
  /-- The first or the last character is a hyphen. -/
  | outerHyphen
  /-- The first character is a mark. -/
  | leadingMark
  /-- The character at a position is not permitted. -/
  | refused (c : CodePoint) (position : Nat) (label : Text)
  /-- The joiner at a position has neighbours that it does not join. -/
  | idleJoiner (c : CodePoint) (position : Nat) (label : Text)
  /-- The joiner at a position follows a character without a name. -/
  | strangeNeighbour (c : CodePoint) (position : Nat) (label : Text)
  /-- The character at a position is not permitted among its neighbours. -/
  | outOfPlace (c : CodePoint) (position : Nat) (label : Text)
  /-- The directions are refused. -/
  | direction (fault : DirectionFault)
  /-- The ASCII form has no Punycode. -/
  | noCode
  /-- The Punycode ends with a hyphen. -/
  | codeEndsWithHyphen
  /-- The Punycode stands for no text. -/
  | malformedCode
deriving DecidableEq, Repr

/-- The message of refused directions. -/
def DirectionFault.message : DirectionFault → Text
  | .unknown label position =>
    "Unknown directionality in label " ++ label.quoted ++ " at position " ++ Text.ofNat position
  | .beginning label =>
    "First codepoint in label " ++ label.quoted ++ " must be directionality L, R or AL"
  | .inRightToLeft position =>
    "Invalid direction for codepoint at position " ++ Text.ofNat position
      ++ " in a right-to-left label"
  | .mixedNumbers => "Can not mix numeral types in a right-to-left label"
  | .inLeftToRight position =>
    "Invalid direction for codepoint at position " ++ Text.ofNat position
      ++ " in a left-to-right label"
  | .ending => "Label ends with illegal codepoint directionality"

/-- The number of a code point in messages: at least four digits in upper case. -/
def numberText (c : CodePoint) : Text := "U+" ++ upperHexNumeral 4 c.toNat

/-- The message of a refused label. -/
def LabelFault.message : LabelFault → Text
  | .empty => "Empty Label"
  | .tooLong => "Label too long"
  | .notNormal => "Label must be in Normalization Form C"
  | .hyphenPair => "Label has disallowed hyphens in 3rd and 4th position"
  | .outerHyphen => "Label must not start or end with a hyphen"
  | .leadingMark => "Label begins with an illegal combining character"
  | .refused c position label =>
    "Codepoint " ++ numberText c ++ " at position " ++ Text.ofNat position ++ " of "
      ++ label.quoted ++ " not allowed"
  | .idleJoiner c position label =>
    "Joiner " ++ numberText c ++ " not allowed at position " ++ Text.ofNat position ++ " in "
      ++ label.quoted
  | .strangeNeighbour c position label =>
    "Unknown codepoint adjacent to joiner " ++ numberText c ++ " at position "
      ++ Text.ofNat position ++ " in " ++ label.quoted
  | .outOfPlace c position label =>
    "Codepoint " ++ numberText c ++ " not allowed at position " ++ Text.ofNat position ++ " in "
      ++ label.quoted
  | .direction fault => fault.message
  | .noCode => "Malformed A-label, no Punycode eligible content found"
  | .codeEndsWithHyphen => "A-label must not end with a hyphen"
  | .malformedCode => "Invalid A-label"

/-! ## Directions -/

/-- The label has characters that are written from right to left. -/
def isBidirectional (directions : List Direction) : Bool :=
  directions.any fun d => d matches .rightToLeft | .arabicLetter | .arabicNumber

/-- The directions that may stand in a label that runs from right to left. -/
def fitsRightToLeft : Direction → Bool
  | .leftToRight => false
  | _ => true

/-- The directions that may stand in a label that runs from left to right. -/
def fitsLeftToRight : Direction → Bool
  | .rightToLeft | .arabicLetter | .arabicNumber => false
  | _ => true

/-- The direction may come last in a label that runs from right to left. -/
def endsRightToLeft (d : Direction) : Bool :=
  d matches .rightToLeft | .arabicLetter | .europeanNumber | .arabicNumber

/-- The direction may come last in a label that runs from left to right. -/
def endsLeftToRight (d : Direction) : Bool := d matches .leftToRight | .europeanNumber

/-- The last direction apart from marks satisfies the condition. -/
def endsWith (ends : Direction → Bool) (directions : List Direction) : Bool :=
  match directions.reverse.dropWhile (· = .nonspacingMark) with
  | [] => false
  | d :: _ => ends d

/-- What first is wrong with directions in a label that runs from right to left, from `position`
on, when a digit of kind `number?` has been met. -/
def rightToLeftFault? (position : Nat) (number? : Option Direction) :
    List Direction → Option DirectionFault
  | [] => none
  | d :: rest =>
    if !fitsRightToLeft d then some (.inRightToLeft position)
    else if d = .arabicNumber ∨ d = .europeanNumber then
      match number? with
      | none => rightToLeftFault? (position + 1) (some d) rest
      | some met =>
        if met = d then rightToLeftFault? (position + 1) number? rest else some .mixedNumbers
    else rightToLeftFault? (position + 1) number? rest

/-- What first is wrong with directions in a label that runs from left to right, from `position`
on. -/
def leftToRightFault? (position : Nat) : List Direction → Option DirectionFault
  | [] => none
  | d :: rest =>
    if fitsLeftToRight d then leftToRightFault? (position + 1) rest
    else some (.inLeftToRight position)

/-- What is wrong with the directions of a label, if some of its characters are written from right
to left. -/
def directionsFault? (label : Text) (directions : List Direction) : Option DirectionFault :=
  if !isBidirectional directions then none
  else
    match directions.head? with
    | some .rightToLeft | some .arabicLetter =>
      (rightToLeftFault? 1 none directions).or
        (if endsWith endsRightToLeft directions then none else some .ending)
    | some .leftToRight =>
      (leftToRightFault? 1 directions).or
        (if endsWith endsLeftToRight directions then none else some .ending)
    | _ => some (.beginning label)

/-- The directions of a label, or the position of the first character without one. -/
def directionsOf (label : Text) : Except DirectionFault (List Direction) :=
  match label.findIdx? (·.direction?.isNone) with
  | some index => .error (.unknown label (index + 1))
  | none => .ok (label.filterMap CodePoint.direction?)

/-! ## Characters among neighbours -/

/-- The ranges of the ideographs that are named all together and not one by one. -/
def jointlyNamedRanges : List (Nat × Nat) := [(0x17000, 0x187F7), (0x18D00, 0x18D08)]

/-- The character of a domain name has a name: it is assigned, so that its direction is known, and
not named together with others. -/
def isNamed (c : CodePoint) : Bool :=
  c.direction?.isSome && !CharacterRange.contains c.toNat jointlyNamedRanges

/-- The letters before and after a place are joined to each other. -/
def isBetweenJoined (before after : Text) : Bool :=
  ((before.dropWhile CodePoint.isTransparent).head?.any CodePoint.joinsNext) &&
    ((after.dropWhile CodePoint.isTransparent).head?.any CodePoint.joinsPrevious)

/-- The joiner may stand between what is before it, the nearest first, and what is after it: after
the sign that silences a vowel, and without width also between letters that are joined. -/
def joinerFits (c : CodePoint) (before after : Text) : Bool :=
  before.head?.any (·.combiningClass = viramaClass) ||
    (c.toNat = 0x200C && isBetweenJoined before after)

/-- A digit of the Arabic script. -/
def isArabicDigit (c : CodePoint) : Bool := 0x660 ≤ c.toNat && c.toNat ≤ 0x669

/-- A digit of the Arabic script as it is used in the east. -/
def isEasternDigit (c : CodePoint) : Bool := 0x6F0 ≤ c.toNat && c.toNat ≤ 0x6F9

/-- The dot in the middle that stands between words of Japanese. -/
def japaneseDot : Nat := 0x30FB

/-- The character, which is not permitted everywhere, may stand between what is before it, the
nearest first, and what is after it; there is no answer for characters that are never permitted. -/
def signFits? (c : CodePoint) (before after : Text) : Option Bool :=
  let others := before ++ after
  if c.toNat = 0xB7 then
    some (before.head? = some (.scalar 'l') && after.head? = some (.scalar 'l'))
  else if c.toNat = 0x375 then some (after.head?.any CodePoint.isGreek)
  else if c.toNat = 0x5F3 ∨ c.toNat = 0x5F4 then some (before.head?.any CodePoint.isHebrew)
  else if c.toNat = japaneseDot then
    some (others.any fun other => other.toNat != japaneseDot && other.isJapanese)
  else if isArabicDigit c then some (!others.any isEasternDigit)
  else if isEasternDigit c then some (!others.any isArabicDigit)
  else none

/-- What is wrong with a character of a label, given what is before it, the nearest first, and what
is after it. -/
def characterFault? (label before : Text) (c : CodePoint) (after : Text) : Option LabelFault :=
  let position := before.length + 1
  if isPermitted c then none
  else if CharacterRange.contains c.toNat joinerRanges then
    if before.head?.any (!isNamed ·) then some (.strangeNeighbour c position label)
    else if joinerFits c before after then none
    else some (.idleJoiner c position label)
  else
    match signFits? c before after with
    | some true => none
    | some false => some (.outOfPlace c position label)
    | none => some (.refused c position label)

/-- What first is wrong with a character of a label after those `before`, the nearest first. -/
def charactersFault? (label before : Text) : Text → Option LabelFault
  | [] => none
  | c :: after =>
    (characterFault? label before c after).or (charactersFault? label (c :: before) after)

/-! ## Labels -/

/-- The largest number of characters of a label that is looked at. -/
def maxLabelCharacters : Nat := 254

/-- The largest number of characters of a label in ASCII. -/
def maxAsciiLabel : Nat := 63

/-- The beginning of the ASCII form of a label with other characters. -/
def codeMark : String := "xn--"

/-- What is wrong with a label. -/
def labelFault? (label : Text) : Option LabelFault :=
  if label.isEmpty then some .empty
  else if maxLabelCharacters < label.length then some .tooLong
  else if !label.isNormal then some .notNormal
  else if Text.startsWith (label.drop 2) "--" then some .hyphenPair
  else if label.startsWith "-" ∨ label.endsWith "-" then some .outerHyphen
  else if label.head?.any CodePoint.isMark then some .leadingMark
  else
    (charactersFault? label [] label).or
      (match directionsOf label with
        | .error fault => some (.direction fault)
        | .ok directions => (directionsFault? label directions).map .direction)

/-- The label, if nothing is wrong with it. -/
def checkLabel (label : Text) : Except LabelFault Text :=
  match labelFault? label with
  | some fault => .error fault
  | none => .ok label

/-- The label that a label in ASCII stands for. -/
def decodeLabel (label : Text) : Except LabelFault Text :=
  let label : Text := label.toLower
  match label.dropPrefix? codeMark with
  | none => checkLabel label
  | some [] => .error .noCode
  | some code =>
    if Text.endsWith code "-" then .error .codeEndsWithHyphen
    else
      match Punycode.decode? code with
      | none => .error .malformedCode
      | some meant => checkLabel meant

/-- The ASCII form of a label. -/
def encodeLabel (label : Text) : Except LabelFault Text := do
  let encoded ←
    if label.all CodePoint.isAscii then (decodeLabel label).map fun _ => label
    else (checkLabel label).map fun label => codeMark ++ Punycode.encode label
  if maxAsciiLabel < encoded.length then throw .tooLong
  return encoded

end MovePack.Domain
