/-
# Quoted text

Messages show a text between quotes and in visible characters only.  The quote is the
apostrophe, or the double quote for a text that holds an apostrophe and no double quote.  Inside,
the backslash and the quote are preceded by a backslash, the line feed, the carriage return and
the tabulator have a letter, and every other character that is not printable is written by its
number in two, four or eight hexadecimal digits.  Byte strings are shown the same way, with all
bytes beyond printable ASCII written by number.
-/
import MovePack.Bytes
import MovePack.Text.Printable

namespace MovePack

/-- The character of a hexadecimal digit, in lower case. -/
def hexDigitChar (digit : Nat) : Char :=
  if digit < 10 then Char.ofNat ('0'.toNat + digit) else Char.ofNat ('a'.toNat + (digit - 10))

/-- The number in hexadecimal notation, in at least `width` digits. -/
def hexNumeral (width n : Nat) : Text :=
  let digits := Radix.digits 16 n
  (List.replicate (width - digits.length) 0 ++ digits).map fun d => .scalar (hexDigitChar d)

/-- The same numeral with letters in upper case. -/
def upperHexNumeral (width n : Nat) : Text :=
  (hexNumeral width n).map fun
    | .scalar c => .scalar c.toUpper
    | .surrogate offset => .surrogate offset

namespace CodePoint

/-- A backslash, a letter and the number of the code point in two, four or eight digits. -/
def numbered (n : Nat) : Text :=
  if n ≤ 0xFF then "\\x" ++ hexNumeral 2 n
  else if n ≤ 0xFFFF then "\\u" ++ hexNumeral 4 n
  else "\\U" ++ hexNumeral 8 n

/-- The written form of a code point between the given quotes. -/
def quotedIn (quote : Char) (c : CodePoint) : Text :=
  if c = .scalar quote ∨ c = .scalar '\x5c' then ['\x5c', c]
  else if c = .scalar '\n' then "\\n"
  else if c = .scalar '\r' then "\\r"
  else if c = .scalar '\t' then "\\t"
  else if c.isPrintable then [c]
  else numbered c.toNat

end CodePoint

namespace Text

/-- The quote put around a text. -/
def quoteFor (t : Text) : Char :=
  if t.contains (.scalar '\x27') && !t.contains (.scalar '\x22') then '\x22' else '\x27'

/-- The text with a quote at each end. -/
def between (quote : Char) (t : Text) : Text := .scalar quote :: (t ++ [.scalar quote])

/-- The text between quotes, in visible characters. -/
def quoted (t : Text) : Text :=
  let quote := t.quoteFor
  between quote (t.flatMap (CodePoint.quotedIn quote))

end Text

namespace Bytes

/-- The written form of a byte between the given quotes. -/
def quotedIn (quote : Char) (b : UInt8) : Text :=
  let c := CodePoint.scalar (Char.ofNat b.toNat)
  if b.toNat < 0x80 then c.quotedIn quote else CodePoint.numbered b.toNat

/-- The byte string between quotes after the letter b, in visible ASCII characters. -/
def quoted (bytes : Bytes) : Text :=
  let quote := Text.quoteFor (bytes.map fun b => .scalar (Char.ofNat b.toNat))
  .scalar 'b' :: Text.between quote (bytes.flatMap (quotedIn quote))

end Bytes

end MovePack
