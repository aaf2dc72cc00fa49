/-
# Strings, dates and numbers of TOML

Each function here takes what it is named for from the beginning of a text and returns it with the
text after it.  Those with a question mark return nothing if the text begins with something else.
-/
import MovePack.Bytes
import MovePack.Toml.Document

namespace MovePack.Toml

/-! ## Characters -/

/-- The line feed. -/
def newline : CodePoint := .scalar '\n'

/-- The quotation mark around basic strings. -/
def quotationMark : CodePoint := .scalar '\x22'

/-- The apostrophe around literal strings. -/
def apostrophe : CodePoint := .scalar '\x27'

/-- A space or a tabulator. -/
def isSpace (c : CodePoint) : Bool := c.toNat = 0x20 || c.toNat = 0x09

/-- A space, a tabulator or a line feed. -/
def isSpaceOrNewline (c : CodePoint) : Bool := isSpace c || c.toNat = 0x0A

/-- A control character other than the tabulator, which no line may hold. -/
def isControl (c : CodePoint) : Bool := (c.toNat < 0x20 && c.toNat ≠ 0x09) || c.toNat = 0x7F

/-- A control character that no string may hold: one over many lines may hold line feeds. -/
def isForbidden (manyLines : Bool) (c : CodePoint) : Bool :=
  isControl c && !(manyLines && c.toNat = 0x0A)

/-- The text without the spaces and tabulators at its beginning. -/
def skipSpace (t : Text) : Text := t.dropWhile isSpace

/-! ## Strings -/

/-- What precedes the first three quotes in a row, and what follows them. -/
def splitQuotes? (quote : CodePoint) : Text → Option (Text × Text)
  | [] => none
  | c :: rest =>
    if c = quote ∧ rest.take 2 = [quote, quote] then some ([], rest.drop 2)
    else (splitQuotes? quote rest).map fun (before, after) => (c :: before, after)

/-- Up to two quotes at the beginning of a text, which still belong to the string over many lines
that ends before them. -/
def lateQuotes (quote : CodePoint) : Text → Text × Text
  | c :: d :: rest =>
    if c ≠ quote then ([], c :: d :: rest)
    else if d ≠ quote then ([c], d :: rest)
    else ([c, d], rest)
  | [c] => if c = quote then ([c], []) else ([], [c])
  | [] => ([], [])

/-- The text without a line feed at its beginning. -/
def dropNewline : Text → Text
  | .scalar '\n' :: rest => rest
  | t => t

/-- The character that a backslash and the given character stand for. -/
def simpleEscape? : CodePoint → Option CodePoint
  | .scalar '\x22' => some (.scalar '\x22')
  | .scalar '\x5c' => some (.scalar '\x5c')
  | .scalar 'b' => some (.scalar '\x08')
  | .scalar 'e' => some (.scalar '\x1b')
  | .scalar 'f' => some (.scalar '\x0c')
  | .scalar 'n' => some (.scalar '\n')
  | .scalar 'r' => some (.scalar '\r')
  | .scalar 't' => some (.scalar '\t')
  | _ => none

/-- The character whose number is written with the given count of hexadecimal digits. -/
def numberedCharacter (count : Nat) (t : Text) : Except Fault (Text × Text) :=
  match (t.take count).mapM CodePoint.hexDigit? with
  | none => .error .malformed
  | some digits =>
    if digits.length < count then .error .malformed
    else
      match CodePoint.ofNat? (Radix.value 16 digits) with
      | some (.scalar c) => .ok ([.scalar c], t.drop count)
      | _ => .error .malformed

/-- What a backslash and the text after it stand for.  In a string over many lines a backslash at
the end of a line stands for nothing and takes the white space after it away. -/
def escape (manyLines : Bool) : Text → Except Fault (Text × Text)
  | [] => .error .malformed
  | mark :: rest =>
    if manyLines && isSpaceOrNewline mark then
      match skipSpace (mark :: rest) with
      | .scalar '\n' :: after => .ok ([], after.dropWhile isSpaceOrNewline)
      | _ => .error .malformed
    else if mark = .scalar 'x' then numberedCharacter 2 rest
    else if mark = .scalar 'u' then numberedCharacter 4 rest
    else if mark = .scalar 'U' then numberedCharacter 8 rest
    else
      match simpleEscape? mark with
      | some c => .ok ([c], rest)
      | none => .error .malformed

/-- The characters of a basic string up to its closing quotes.  Every step takes a character, so
that `fuel` above their number does not run out. -/
def basicBody (manyLines : Bool) : (fuel : Nat) → Text → Except Fault (Text × Text)
  | 0, _ => .error .malformed
  | _ + 1, [] => .error .malformed
  | fuel + 1, c :: rest => do
    if c = quotationMark ∧ !manyLines then return ([], rest)
    else if c = quotationMark ∧ rest.take 2 = [quotationMark, quotationMark] then
      return ([], rest.drop 2)
    else if c = .scalar '\x5c' then
      let (meant, rest) ← escape manyLines rest
      let (body, after) ← basicBody manyLines fuel rest
      return (meant ++ body, after)
    else if isForbidden manyLines c then throw .malformed
    else
      let (body, after) ← basicBody manyLines fuel rest
      return (c :: body, after)

/-- A basic string on one line, after its opening quote. -/
def basicString (t : Text) : Except Fault (Text × Text) := basicBody false (t.length + 1) t

/-- A literal string on one line, after its opening quote. -/
def literalString (t : Text) : Except Fault (Text × Text) :=
  let body := t.takeWhile (· ≠ apostrophe)
  match t.drop body.length with
  | [] => .error .malformed
  | _ :: after => if body.any (isForbidden false) then .error .malformed else .ok (body, after)

/-- A basic string over many lines, after its opening quotes. -/
def basicLines (t : Text) : Except Fault (Text × Text) := do
  let (body, after) ← basicBody true (t.length + 1) (dropNewline t)
  let (late, after) := lateQuotes quotationMark after
  return (body ++ late, after)

/-- A literal string over many lines, after its opening quotes. -/
def literalLines (t : Text) : Except Fault (Text × Text) :=
  match splitQuotes? apostrophe (dropNewline t) with
  | none => .error .malformed
  | some (body, after) =>
    if body.any (isForbidden true) then .error .malformed
    else
      let (late, after) := lateQuotes apostrophe after
      .ok (body ++ late, after)

/-- A string of any of the four forms. -/
def string? (t : Text) : Option (Except Fault (Text × Text)) :=
  if t.startsWith "\x22\x22\x22" then some (basicLines (t.drop 3))
  else if t.startsWith "'''" then some (literalLines (t.drop 3))
  else if t.startsWith "\x22" then some (basicString (t.drop 1))
  else if t.startsWith "'" then some (literalString (t.drop 1))
  else none

/-! ## Dates and times -/

/-- A number of exactly the given count of decimal digits, within bounds. -/
def fixedNumber? (count low high : Nat) (t : Text) : Option (Nat × Text) := do
  let digits ← (t.take count).mapM CodePoint.asciiDigit?
  let n := Radix.value 10 digits
  if digits.length = count ∧ low ≤ n ∧ n ≤ high then some (n, t.drop count) else none

/-- The text after a string. -/
def after? (s : String) (t : Text) : Option Text := t.dropPrefix? s

/-- The ASCII digits at the beginning of a text. -/
def digitsOf (t : Text) : List Nat := (t.takeWhile (·.asciiDigit?.isSome)).filterMap (·.asciiDigit?)

/-- The part of a second after a point, in microseconds; further digits are passed over. -/
def microseconds (t : Text) : Nat × Text :=
  match t with
  | .scalar '.' :: rest =>
    match digitsOf rest with
    | [] => (0, t)
    | digits =>
      (Radix.value 10 ((digits ++ List.replicate 6 0).take 6), rest.drop digits.length)
  | _ => (0, t)

/-- The seconds of a time, with the microseconds. -/
def seconds? (t : Text) : Option (Nat × Nat × Text) := do
  let (second, t) ← fixedNumber? 2 0 59 (← after? ":" t)
  some (second, microseconds t)

/-- A time of the day; the seconds may be missing. -/
def time? (t : Text) : Option (Time × Text) := do
  let (hour, t) ← fixedNumber? 2 0 23 t
  let (minute, t) ← fixedNumber? 2 0 59 (← after? ":" t)
  let (second, microsecond, t) := (seconds? t).getD (0, 0, t)
  some (⟨hour, minute, second, microsecond⟩, t)

/-- An offset from universal time, in minutes. -/
def offset? (t : Text) : Option (Int × Text) :=
  match t with
  | .scalar 'Z' :: rest => some (0, rest)
  | .scalar 'z' :: rest => some (0, rest)
  | .scalar '+' :: rest => (span? rest).map fun (minutes, rest) => ((minutes : Int), rest)
  | .scalar '-' :: rest => (span? rest).map fun (minutes, rest) => (-(minutes : Int), rest)
  | _ => none
where
  /-- Hours and minutes, in minutes. -/
  span? (t : Text) : Option (Nat × Text) := do
    let (hours, t) ← fixedNumber? 2 0 23 t
    let (minutes, t) ← fixedNumber? 2 0 59 (← after? ":" t)
    some (hours * 60 + minutes, t)

/-- A date, which need not stand in the calendar. -/
def date? (t : Text) : Option (Date × Text) := do
  let (year, t) ← fixedNumber? 4 0 9999 t
  let (month, t) ← fixedNumber? 2 1 12 (← after? "-" t)
  let (day, t) ← fixedNumber? 2 1 31 (← after? "-" t)
  some (⟨year, month, day⟩, t)

/-- The time after a date, and the mark between them. -/
def timeAfterDate? (t : Text) : Option (Time × Text) :=
  match t with
  | mark :: rest =>
    if mark = .scalar 'T' ∨ mark = .scalar 't' ∨ mark = .scalar ' ' then time? rest else none
  | [] => none

/-- A date, with or without a time; it must stand in the calendar. -/
def moment? (t : Text) : Option (Except Fault (Value × Text)) := do
  let (date, t) ← date? t
  if !date.isValid then some (.error .malformed)
  else
    match timeAfterDate? t with
    | none => some (.ok (.date date, t))
    | some (time, t) =>
      match offset? t with
      | none => some (.ok (.dateTime date time none, t))
      | some (minutes, t) => some (.ok (.dateTime date time (some minutes), t))

/-! ## Numbers -/

/-- A digit of the given base. -/
def digitIn? (base : Nat) (c : CodePoint) : Option Nat := c.hexDigit?.filter (· < base)

/-- The digits of the given base at the beginning of a text; single underscores may stand between
two of them. -/
def digitsIn (base : Nat) : Text → List Nat × Text
  | [] => ([], [])
  | c :: rest =>
    match digitIn? base c with
    | some digit => let (digits, after) := digitsIn base rest; (digit :: digits, after)
    | none =>
      if c = .scalar '_' ∧ (rest.head?.bind (digitIn? base)).isSome then digitsAfter c rest
      else ([], c :: rest)
where
  /-- The digits after an underscore. -/
  digitsAfter (mark : CodePoint) : Text → List Nat × Text
    | [] => ([], [mark])
    | c :: rest =>
      match digitIn? base c with
      | some digit => let (digits, after) := digitsIn base rest; (digit :: digits, after)
      | none => ([], mark :: c :: rest)

/-- One or more digits; the first is not an underscore. -/
def digits? (base : Nat) (t : Text) : Option (List Nat × Text) := do
  let _ ← t.head?.bind (digitIn? base)
  some (digitsIn base t)

/-- An integer in base 16, 8 or 2 with the mark of its base. -/
def markedInteger? (t : Text) : Option (Value × Text) := do
  let (base, rest) ←
    [("0x", 16), ("0o", 8), ("0b", 2)].findSome? fun (mark, base) =>
      (after? mark t).map fun rest => ((base : Nat), rest)
  let (digits, rest) ← digits? base rest
  some (.integer (Radix.value base digits), rest)

/-- A sign, and whether it is a minus sign. -/
def sign : Text → Bool × Text
  | .scalar '-' :: rest => (true, rest)
  | .scalar '+' :: rest => (false, rest)
  | t => (false, t)

/-- The digits of the whole part of a number: a zero, or digits that begin with another. -/
def whole? (t : Text) : Option (List Nat × Text) :=
  match t with
  | .scalar '0' :: rest => some ([0], rest)
  | _ => digits? 10 t

/-- The digits after a point. -/
def fraction? (t : Text) : Option (List Nat × Text) := do digits? 10 (← after? "." t)

/-- The exponent of a number. -/
def exponent? (t : Text) : Option (Int × Text) :=
  match t with
  | mark :: rest =>
    if mark = .scalar 'e' ∨ mark = .scalar 'E' then
      let (negative, rest) := sign rest
      (digits? 10 rest).map fun (digits, rest) =>
        let magnitude : Int := Radix.value 10 digits
        (if negative then -magnitude else magnitude, rest)
    else none
  | [] => none

/-- A decimal number: an integer, unless it has a fraction or an exponent. -/
def decimal? (t : Text) : Option (Except Fault (Value × Text)) := do
  let (negative, rest) := sign t
  let (whole, rest) ← whole? rest
  let fraction := fraction? rest
  let (decimals, rest) := fraction.getD ([], rest)
  let exponent := exponent? rest
  let (power, rest) := exponent.getD (0, rest)
  if fraction.isNone && exponent.isNone then
    if maxDigits < whole.length then some (.error (.tooMuch (.digits whole.length)))
    else
      let magnitude : Int := Radix.value 10 whole
      some (.ok (.integer (if negative then -magnitude else magnitude), rest))
  else
    some (.ok (.float (Binary64.ofDecimal negative (Radix.value 10 (whole ++ decimals))
      (power - decimals.length)), rest))

/-- A number that is written as a word, with or without sign. -/
def namedNumber? (t : Text) : Option (Value × Text) :=
  let (negative, rest) := sign t
  match after? "inf" rest, after? "nan" rest with
  | some rest, _ => some (.float (.infinity negative), rest)
  | none, some rest => some (.float .nan, rest)
  | none, none => none

/-- A truth value. -/
def boolean? (t : Text) : Option (Value × Text) :=
  match after? "true" t, after? "false" t with
  | some rest, _ => some (.boolean true, rest)
  | none, some rest => some (.boolean false, rest)
  | none, none => none

/-- A value that is neither array nor table. -/
def scalar (t : Text) : Except Fault (Value × Text) :=
  match string? t with
  | some outcome => outcome.map fun (s, rest) => (.string s, rest)
  | none =>
    match boolean? t, moment? t, time? t, markedInteger? t, decimal? t, namedNumber? t with
    | some found, _, _, _, _, _ => .ok found
    | _, some outcome, _, _, _, _ => outcome
    | _, _, some (time, rest), _, _, _ => .ok (.time time, rest)
    | _, _, _, some found, _, _ => .ok found
    | _, _, _, _, some outcome, _ => outcome
    | _, _, _, _, _, some found => .ok found
    | _, _, _, _, _, _ => .error .malformed

end MovePack.Toml
