/-
# Values of script arguments as texts

How a single value of an argument type is read from its text, and the bytes it is passed in:
addresses as their bytes, truth values in one byte, integers in the width of their type with the
least significant byte first, byte strings and texts after their length, and raw bytes as they
are.
-/
import MovePack.Account.Checksummed
import MovePack.Script.ArgType

namespace MovePack

namespace Literal

/-- Reads a truth value. -/
def bool (t : Text) : Except ArgFault Bool :=
  if t = Text.ofString "true" then .ok true
  else if t = Text.ofString "false" then .ok false
  else .error (.notABool t)

/-- The values of ASCII digits, or `none` if there is none or something else occurs. -/
def digits? (t : Text) : Option (List Nat) :=
  if t.isEmpty then none else t.mapM CodePoint.asciiDigit?

/-- Reads an unsigned integer, which a plus sign may precede, up to a bound.  In messages `type`
is its type. -/
def unsigned (bound : Nat) (type t : Text) : Except ArgFault Nat :=
  match digits? ((t.dropPrefix? "+").getD t) with
  | none => .error (.invalidDigit type t)
  | some digits =>
    let value := Radix.value 10 digits
    if bound < value then .error (.tooLarge type t) else .ok value

end Literal

namespace ArgType

/-- The serialized form of what has been written, if the writing is complete. -/
def complete (w : Codec.Written Codec.WriteFault) : Except ArgFault Bytes :=
  match w.toExcept with
  | .ok bytes => .ok bytes
  | .error fault => .error (.unwritable fault)

/-- The bytes in hexadecimal notation. -/
def hexBytes (t : Text) : Except ArgFault Bytes :=
  match Hex.decodeMarked t with
  | .ok bytes => .ok bytes
  | .error fault => .error (.invalidHex fault)

/-- The bytes of an address. -/
def addressBytes (t : Text) : Except ArgFault Bytes :=
  match Address.parse t with
  | .ok a => .ok a.bytes
  | .error fault => .error (.invalidAddress fault)

/-- The bytes of an integer. -/
def integerBytes (type : ArgType) (t : Text) : Except ArgFault Bytes := do
  let value ← Literal.unsigned (Nat.pow 2 (8 * type.width) - 1) type.name t
  return Bytes.littleEndian type.width value

/-- The bytes in which the value that a text denotes is passed. -/
def encodeText (type : ArgType) (t : Text) : Except ArgFault Bytes :=
  match type with
  | .signer | .address => addressBytes t
  | .bool => do return [if ← Literal.bool t then 1 else 0]
  | .hex => do complete (Codec.Written.countedBytes (← hexBytes t))
  | .string => complete (Codec.Written.text t)
  | .raw => hexBytes t
  | .u8 | .u16 | .u32 | .u64 | .u128 | .u256 => integerBytes type t

end ArgType

end MovePack
