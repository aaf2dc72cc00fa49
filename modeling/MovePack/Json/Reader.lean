/-
# Reading JSON texts

A JSON text is read from its beginning; the first place where it departs from the grammar is
reported by line, column and position.  The grammar is that of the standard with the names `NaN`,
`Infinity` and `-Infinity` as further numbers.  Escapes of two surrogates that belong together
stand for one character, and other surrogates for themselves.  Integers are exact, but
have at most 4300 digits, and arrays and objects lie at most 990 deep.

Inside the reader a place is given by the number of characters from there to the end.
-/
import MovePack.Bytes
import MovePack.Json.Basic

namespace MovePack.Json

/-- What is wrong at a place of a text. -/
inductive Problem where
  /-- No value begins here. -/
  | expectingValue
  /-- Something follows the value. -/
  | extraData
  /-- A comma is missing. -/
  | expectingComma
  /-- A colon is missing. -/
  | expectingColon
  /-- The name of a member is missing. -/
  | expectingName
  /-- The string that begins here does not end. -/
  | unterminatedString
  /-- A control character stands in a string. -/
  | controlCharacter
  /-- The backslash here begins no escape. -/
  | invalidEscape
  /-- Four hexadecimal digits and a further character do not follow. -/
  | invalidUnicodeEscape
  /-- The text begins with a byte order mark. -/
  | byteOrderMark
deriving DecidableEq, Repr

/-- The words for what is wrong. -/
def Problem.message : Problem → String
  | .expectingValue => "Expecting value"
  | .extraData => "Extra data"
  | .expectingComma => "Expecting ',' delimiter"
  | .expectingColon => "Expecting ':' delimiter"
  | .expectingName => "Expecting property name enclosed in double quotes"
  | .unterminatedString => "Unterminated string starting at"
  | .controlCharacter => "Invalid control character at"
  | .invalidEscape => "Invalid \x5cescape"
  | .invalidUnicodeEscape => "Invalid \x5cuXXXX escape"
  | .byteOrderMark => "Unexpected UTF-8 BOM (decode using utf-8-sig)"

/-- The containers of values. -/
inductive Container where
  /-- An array. -/
  | array
  /-- An object. -/
  | object
deriving DecidableEq, Repr

/-- The name of a container. -/
def Container.name : Container → String
  | .array => "array"
  | .object => "object"

/-- Why a text is not read. -/
inductive Fault where
  /-- The text departs from the grammar at a place. -/
  | malformed (problem : Problem) (line column position : Nat)
  /-- An integer has too many digits. -/
  | tooManyDigits (count : Nat)
  /-- A container lies too deep. -/
  | tooDeep (container : Container)
deriving DecidableEq, Repr

/-- The largest number of digits of an integer. -/
def maxDigits : Nat := 4300

/-- The largest number of containers around a value. -/
def maxNesting : Nat := 990

/-- The message of a text that is not read. -/
def Fault.message : Fault → Text
  | .malformed problem line column position =>
    Text.ofString problem.message ++ ": line " ++ Text.ofNat line ++ " column "
      ++ Text.ofNat column ++ " (char " ++ Text.ofNat position ++ ")"
  | .tooManyDigits count =>
    "Exceeds the limit (" ++ Text.ofNat maxDigits
      ++ " digits) for integer string conversion: value has " ++ Text.ofNat count
      ++ " digits; use sys.set_int_max_str_digits() to increase the limit"
  | .tooDeep container =>
    "maximum recursion depth exceeded while decoding a JSON " ++ Text.ofString container.name
      ++ " from a unicode string"

namespace Reader

/-- Why reading stops, with places counted from the end of the text. -/
inductive Stop where
  /-- Something is wrong at the place before the last `remaining` characters. -/
  | here (problem : Problem) (remaining : Nat)
  /-- An integer has too many digits. -/
  | tooManyDigits (count : Nat)
  /-- A container lies too deep. -/
  | tooDeep (container : Container)
deriving DecidableEq, Repr

/-- Stops before the given rest of the text. -/
def stop {α : Type} (problem : Problem) (rest : Text) : Except Stop α :=
  .error (.here problem rest.length)

/-- A space, a tabulator, a carriage return or a line feed. -/
def isSpace (c : CodePoint) : Bool :=
  c.toNat = 0x20 || c.toNat = 0x09 || c.toNat = 0x0A || c.toNat = 0x0D

/-- The text without the white space at its beginning. -/
def skipSpace (t : Text) : Text := t.dropWhile isSpace

/-! ## Strings -/

/-- The character that a backslash and the given character stand for. -/
def simpleEscape? : CodePoint → Option CodePoint
  | .scalar '\x22' => some (.scalar '\x22')
  | .scalar '\x5c' => some (.scalar '\x5c')
  | .scalar '/' => some (.scalar '/')
  | .scalar 'b' => some (.scalar '\x08')
  | .scalar 'f' => some (.scalar '\x0c')
  | .scalar 'n' => some (.scalar '\n')
  | .scalar 'r' => some (.scalar '\r')
  | .scalar 't' => some (.scalar '\t')
  | _ => none

/-- The code point of four hexadecimal digits. -/
def escapedCodePoint? (a b c d : CodePoint) : Option CodePoint :=
  match a.hexDigit?, b.hexDigit?, c.hexDigit?, d.hexDigit? with
  | some a, some b, some c, some d => CodePoint.ofNat? (((a * 16 + b) * 16 + c) * 16 + d)
  | _, _, _, _ => none

/-- An escaped code point before a string that begins with an escape. -/
def joinEscapes (c : CodePoint) : Text → Text
  | next :: rest =>
    match c.joined? next with
    | some both => both :: rest
    | none => c :: next :: rest
  | [] => [c]

/-- The text begins with an escape by number. -/
def beginsEscape (t : Text) : Bool := t.startsWith "\x5cu"

/-- The string after an opening quote, and the text after its closing quote.  The string began with
`opening`. -/
def string (opening : Text) : Text → Except Stop (Text × Text)
  | [] => stop .unterminatedString opening
  | c :: rest =>
    if c = .scalar '\x22' then .ok ([], rest)
    else if c = .scalar '\x5c' then
      match rest with
      | [] => stop .unterminatedString opening
      | mark :: rest =>
        if mark = .scalar 'u' then
          match rest with
          | d₁ :: d₂ :: d₃ :: d₄ :: next :: rest' =>
            match escapedCodePoint? d₁ d₂ d₃ d₄ with
            | some x =>
              (string opening (next :: rest')).map fun (s, tail) =>
                (if beginsEscape (next :: rest') then joinEscapes x s else x :: s, tail)
            | none => stop .invalidUnicodeEscape (mark :: rest)
          | _ => stop .invalidUnicodeEscape (mark :: rest)
        else
          match simpleEscape? mark with
          | some x => (string opening rest).map fun (s, tail) => (x :: s, tail)
          | none => stop .invalidEscape (c :: mark :: rest)
    else if c.toNat < 0x20 then stop .controlCharacter (c :: rest)
    else (string opening rest).map fun (s, tail) => (c :: s, tail)
termination_by structural t => t

/-! ## Numbers -/

/-- The values of the ASCII digits at the beginning, and the text after them. -/
def spanDigits : Text → List Nat × Text
  | [] => ([], [])
  | c :: rest =>
    match c.asciiDigit? with
    | none => ([], c :: rest)
    | some digit => let (digits, tail) := spanDigits rest; (digit :: digits, tail)

/-- The digits before the point: a zero, or digits that begin with another. -/
def wholePart? (t : Text) : Option (List Nat × Text) :=
  match t with
  | .scalar '0' :: rest => some ([0], rest)
  | _ =>
    match spanDigits t with
    | ([], _) => none
    | part => some part

/-- The digits after a point, and the text after them; a point without digits is left. -/
def fractionPart? (t : Text) : Option (List Nat × Text) :=
  match t with
  | .scalar '.' :: rest =>
    match spanDigits rest with
    | ([], _) => none
    | part => some part
  | _ => none

/-- The exponent after its mark, and the text after it; a mark without digits is left. -/
def exponentPart? (t : Text) : Option (Int × Text) :=
  match t with
  | mark :: rest =>
    if mark = .scalar 'e' ∨ mark = .scalar 'E' then
      let (negative, rest) :=
        match rest with
        | .scalar '-' :: rest => (true, rest)
        | .scalar '+' :: rest => (false, rest)
        | rest => (false, rest)
      match spanDigits rest with
      | ([], _) => none
      | (digits, tail) =>
        let magnitude : Int := Radix.value 10 digits
        some (if negative then -magnitude else magnitude, tail)
    else none
  | [] => none

/-- The number whose absolute value begins the text, and the text after it. -/
def unsignedNumber? (negative : Bool) (t : Text) : Option (Except Stop (Json × Text)) :=
  (wholePart? t).map fun (whole, rest) =>
    let fraction := fractionPart? rest
    let (decimals, rest) := fraction.getD ([], rest)
    let exponent := exponentPart? rest
    let (power, rest) := exponent.getD (0, rest)
    if fraction.isNone && exponent.isNone then
      if maxDigits < whole.length then .error (.tooManyDigits whole.length)
      else
        let magnitude : Int := Radix.value 10 whole
        .ok (.int (if negative then -magnitude else magnitude), rest)
    else
      .ok (.float (Binary64.ofDecimal negative (Radix.value 10 (whole ++ decimals))
        (power - decimals.length)), rest)

/-- The number at the beginning of a text, and the text after it. -/
def number (t : Text) : Except Stop (Json × Text) :=
  let found :=
    match t with
    | .scalar '-' :: rest => unsignedNumber? true rest
    | _ => unsignedNumber? false t
  found.getD (stop .expectingValue t)

/-! ## Values -/

/-- The values that are written as words. -/
def words : List (String × Json) :=
  [("null", .null), ("true", .bool true), ("false", .bool false), ("NaN", .float .nan),
   ("Infinity", .float (.infinity false)), ("-Infinity", .float (.infinity true))]

/-- The value of the word at the beginning of a text, and the text after it. -/
def word? (t : Text) : Option (Json × Text) :=
  words.findSome? fun (w, value) => (t.dropPrefix? w).map fun rest => (value, rest)

/-- The value at the beginning of a text that begins no container and no string. -/
def scalar (t : Text) : Except Stop (Json × Text) :=
  match word? t with
  | some found => .ok found
  | none => number t

mutual

/-- The value at the beginning of a text, and the text after it, when `nesting` more containers
may lie in each other.  Of two steps in a row one takes a character, so that `fuel` above twice
the number of characters does not run out. -/
def value (fuel nesting : Nat) (t : Text) : Except Stop (Json × Text) :=
  match fuel with
  | 0 => stop .expectingValue t
  | fuel + 1 =>
    match t with
    | .scalar '\x22' :: rest => (string t rest).map fun (s, tail) => (.str s, tail)
    | .scalar '[' :: rest =>
      match nesting with
      | 0 => .error (.tooDeep .array)
      | nesting + 1 =>
        match skipSpace rest with
        | .scalar ']' :: tail => .ok (.arr [], tail)
        | rest => (elements fuel nesting rest).map fun (es, tail) => (.arr es, tail)
    | .scalar '\x7b' :: rest =>
      match nesting with
      | 0 => .error (.tooDeep .object)
      | nesting + 1 =>
        match skipSpace rest with
        | .scalar '\x7d' :: tail => .ok (.obj [], tail)
        | rest => (members fuel nesting [] rest).map fun (ms, tail) => (.obj ms, tail)
    | t => scalar t

/-- One or more elements up to the closing bracket, and the text after it. -/
def elements (fuel nesting : Nat) (t : Text) : Except Stop (List Json × Text) :=
  match fuel with
  | 0 => stop .expectingValue t
  | fuel + 1 =>
    match value fuel nesting t with
    | .error s => .error s
    | .ok (v, rest) =>
      match skipSpace rest with
      | .scalar ']' :: tail => .ok ([v], tail)
      | .scalar ',' :: rest =>
        (elements fuel nesting (skipSpace rest)).map fun (es, tail) => (v :: es, tail)
      | rest => stop .expectingComma rest

/-- One or more members up to the closing brace, after those `before` them, and the text after
it. -/
def members (fuel nesting : Nat) (before : List (Text × Json)) (t : Text) :
    Except Stop (List (Text × Json) × Text) :=
  match fuel with
  | 0 => stop .expectingName t
  | fuel + 1 =>
    match t with
    | .scalar '\x22' :: rest =>
      match string t rest with
      | .error s => .error s
      | .ok (name, rest) =>
        match skipSpace rest with
        | .scalar ':' :: rest =>
          match value fuel nesting (skipSpace rest) with
          | .error s => .error s
          | .ok (v, rest) =>
            let known := insertMember name v before
            match skipSpace rest with
            | .scalar '\x7d' :: tail => .ok (known, tail)
            | .scalar ',' :: rest => members fuel nesting known (skipSpace rest)
            | rest => stop .expectingComma rest
        | rest => stop .expectingColon rest
    | t => stop .expectingName t

end

/-- The value of a whole text, with white space around it. -/
def document (t : Text) : Except Stop Json :=
  let body := skipSpace t
  match value (2 * body.length + 2) maxNesting body with
  | .error s => .error s
  | .ok (v, rest) =>
    match skipSpace rest with
    | [] => .ok v
    | rest => stop .extraData rest

/-- The fault that a stop means in the whole text. -/
def Stop.toFault (whole : Text) : Stop → Fault
  | .here problem remaining =>
    let position := whole.length - remaining
    let before := whole.take position
    let line := before.filter (· = .scalar '\n')
    let lastLine := before.reverse.takeWhile (· ≠ .scalar '\n')
    .malformed problem (line.length + 1) (lastLine.length + 1) position
  | .tooManyDigits count => .tooManyDigits count
  | .tooDeep container => .tooDeep container

end Reader

/-- The value that a JSON text denotes, when no byte order mark is expected in it. -/
def ofUnmarkedText (t : Text) : Except Fault Json :=
  match Reader.document t with
  | .ok v => .ok v
  | .error s => .error (s.toFault t)

/-- The value that a JSON text denotes. -/
def ofText (t : Text) : Except Fault Json :=
  if t.head?.any (·.toNat = 0xFEFF) then .error (.malformed .byteOrderMark 1 1 0)
  else ofUnmarkedText t

end MovePack.Json
