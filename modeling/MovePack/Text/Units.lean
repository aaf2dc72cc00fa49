/-
# Text in wide units

In two of its forms a text is a sequence of units of two or of four bytes.  Of two bytes a unit is a
code point, except that a high and a low surrogate together stand for one character; of four bytes a
unit is always a code point.  A surrogate that stands alone is read as itself.
-/
import MovePack.Text.Encoding

namespace MovePack

/-- The number whose bytes stand in the given order. -/
def ByteOrder.value : ByteOrder → Bytes → Nat
  | .little, bytes => Bytes.ofLittleEndian bytes
  | .big, bytes => Bytes.ofLittleEndian bytes.reverse

namespace Utf16

/-- The units of two bytes, each a code point, and the byte that is left at the end. -/
def units (order : ByteOrder) : Bytes → Text × Bytes
  | a :: b :: rest =>
    let (found, left) := units order rest
    ((CodePoint.ofNat? (order.value [a, b])).toList ++ found, left)
  | left => ([], left)

/-- The text with every high surrogate and the low surrogate after it joined into the character
they stand for. -/
def joinSurrogates : Text → Text
  | a :: b :: rest =>
    match a.joined? b with
    | some both => both :: joinSurrogates rest
    | none => a :: joinSurrogates (b :: rest)
  | t => t

/-- The text of units of two bytes. -/
def decode (order : ByteOrder) (bytes : Bytes) : Except DecodeFault Text :=
  match units order bytes with
  | (found, []) => .ok (joinSurrogates found)
  | (found, b :: left) =>
    .error ⟨.utf16 order, 2 * found.length, b, left.length + 1, .truncated⟩

end Utf16

namespace Utf32

/-- The text of units of four bytes, when `position` bytes have been read before them. -/
def decodeFrom (order : ByteOrder) (position : Nat) : Bytes → Except DecodeFault Text
  | a :: b :: c :: d :: rest =>
    match CodePoint.ofNat? (order.value [a, b, c, d]) with
    | some x => (decodeFrom order (position + 4) rest).map (x :: ·)
    | none => .error ⟨.utf32 order, position, a, 4, .outOfRange⟩
  | [] => .ok []
  | a :: left => .error ⟨.utf32 order, position, a, left.length + 1, .truncated⟩

/-- The text of units of four bytes. -/
def decode (order : ByteOrder) (bytes : Bytes) : Except DecodeFault Text :=
  decodeFrom order 0 bytes

end Utf32

/-- The text that bytes hold in a form. -/
def TextForm.decode : TextForm → Bytes → Except DecodeFault Text
  | .utf8, bytes => Utf8.decode bytes
  | .utf16 order, bytes => Utf16.decode order bytes
  | .utf32 order, bytes => Utf32.decode order bytes

end MovePack
