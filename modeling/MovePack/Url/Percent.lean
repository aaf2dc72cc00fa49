/-
# Percent-encoding

Characters that cannot stand in a part of a URL are written as the bytes of their UTF-8 form, each
as a percent sign and two digits.  Which characters can stand depends on the part; the percent sign
always can, so that what is written in this way already is left as it is.
-/
import MovePack.Text.Encoding

namespace MovePack.Url

/-- The written form of a byte. -/
def percentByte (b : UInt8) : Text := .scalar '%' :: upperHexNumeral 2 b.toNat

/-- The text with every character that is not safe written by its bytes. -/
def percentEncode (isSafe : CodePoint → Bool) (t : Text) : Text :=
  t.flatMap fun c => if isSafe c then [c] else (Charset.bytesOf c).flatMap percentByte

/-- The character is one of those in a string. -/
def isOneOf (characters : String) (c : CodePoint) : Bool := (Text.ofString characters).contains c

/-- A visible character of ASCII. -/
def isVisible (c : CodePoint) : Bool := 0x20 < c.toNat && c.toNat < 0x7F

/-- A character that can stand in a path. -/
def isSafeInPath (c : CodePoint) : Bool := isVisible c && !isOneOf "\x22#<>?\x60\x7b\x7d" c

/-- A character that can stand in a query. -/
def isSafeInQuery (c : CodePoint) : Bool := isVisible c && !isOneOf "\x22#<>" c

/-- A character that can stand in the name of a host. -/
def isSafeInHost (c : CodePoint) : Bool := isVisible c && !isOneOf "#/:<>?@[]^" c

end MovePack.Url
