/-
# White space

White space characters, which may surround a numeral, are those with the Unicode property
White_Space.  Blank characters, which separate the tokens of a type signature, are these and the
four information separators `U+001C` to `U+001F`.
-/
import MovePack.Text.CharacterRange

namespace MovePack

/-- The ranges of characters with the property White_Space. -/
def whiteSpaceRanges : List (Nat × Nat) :=
  [(0x09, 0x0D), (0x20, 0x20), (0x85, 0x85), (0xA0, 0xA0), (0x1680, 0x1680), (0x2000, 0x200A),
   (0x2028, 0x2029), (0x202F, 0x202F), (0x205F, 0x205F), (0x3000, 0x3000)]

/-- The code point is white space. -/
def CodePoint.isWhiteSpace (c : CodePoint) : Bool :=
  CharacterRange.contains c.toNat whiteSpaceRanges

/-- The code point is white space or an information separator. -/
def CodePoint.isBlank (c : CodePoint) : Bool :=
  c.isWhiteSpace || (0x1C ≤ c.toNat && c.toNat ≤ 0x1F)

namespace Text

/-- The text without the given code points at both ends. -/
def trimWhile (drops : CodePoint → Bool) (t : Text) : Text :=
  dropEndWhile drops (t.dropWhile drops)

/-- The text without the blank characters at both ends. -/
def trim (t : Text) : Text := t.trimWhile CodePoint.isBlank

end Text

end MovePack
