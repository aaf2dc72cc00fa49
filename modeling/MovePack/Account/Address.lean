/-
# Account addresses

An account address is 32 bytes.  Its text is `0x` and 64 hexadecimal digits; the short form
leaves leading zeros out.  Hexadecimal text is read with the mark `0x` and up to 64 digits, which
are padded with zeros on the left, or without the mark and with all 64 digits.
-/
import MovePack.Text.Hex

namespace MovePack

/-- An account address: 32 bytes. -/
structure Address where
  /-- The bytes, the most significant first. -/
  bytes : Bytes
  /-- There are 32 of them. -/
  length_bytes : bytes.length = 32
deriving DecidableEq

namespace Address

/-- The number of bytes of an address. -/
def size : Nat := 32

/-- Why a text or a byte string is not an account address. -/
inductive Fault where
  /-- The number of bytes is not 32. -/
  | wrongLength (length : Nat)
  /-- After the mark, the number of digits is not between 1 and 64. -/
  | markedDigitCount (text : Text)
  /-- Without the mark, the number of digits is not 64. -/
  | bareDigitCount (text : Text)
  /-- The padded digits have no place for the character at a position. -/
  | notHex (text : Text) (position : Nat)
  /-- The text is not base58 text, for the reason given. -/
  | notBase58 (text : Text) (reason : Text)
  /-- The first byte announces no network. -/
  | badNetwork (text : Text)
  /-- The number of bytes does not fit the network. -/
  | badPayloadLength (text : Text) (length : Nat)
  /-- The checksum is not the one of the bytes before it. -/
  | badChecksum (text : Text)
  /-- A negative network number, which has no place in a byte. -/
  | negativeNetwork
  /-- A network number of more than 14 bits. -/
  | networkOutOfRange (network : Int)
  /-- Neither the hexadecimal nor the checksummed form. -/
  | neither (hex : Fault) (checksummed : Fault)
deriving DecidableEq, Repr

/-- The message of a refused address. -/
def Fault.message : Fault → Text
  | .wrongLength length => "Expected address of length 32, got " ++ Text.ofNat length
  | .markedDigitCount text => "Hex address " ++ text.quoted ++ " must have 1 to 64 digits after 0x"
  | .bareDigitCount text =>
    "Hex address " ++ text.quoted ++ " without 0x must have exactly 64 digits"
  | .notHex text position =>
    "Invalid hex address " ++ text.quoted
      ++ ": non-hexadecimal number found in fromhex() arg at position " ++ Text.ofNat position
  | .notBase58 text reason => "Invalid SS58 address " ++ text.quoted ++ ": " ++ reason
  | .badNetwork text => "Invalid SS58 prefix in " ++ text.quoted
  | .badPayloadLength text length =>
    "Invalid SS58 address length " ++ Text.ofNat length ++ " for " ++ text.quoted
  | .badChecksum text => "Invalid SS58 checksum for " ++ text.quoted
  | .negativeNetwork => "bytes must be in range(0, 256)"
  | .networkOutOfRange network => "SS58 prefix " ++ Text.ofInt network ++ " is out of range"
  | .neither hex checksummed =>
    hex.message ++ " (not an SS58 address either: " ++ checksummed.message ++ ")"

/-- The address of 32 bytes. -/
def ofBytes (bytes : Bytes) : Except Fault Address :=
  if h : bytes.length = 32 then .ok ⟨bytes, h⟩ else .error (.wrongLength bytes.length)

/-- The mark `0x` and all 64 digits. -/
def toText (a : Address) : Text := "0x" ++ a.bytes.hex

/-- The digits without leading zeros, but at least one. -/
def significantDigits (digits : Text) : Text :=
  match digits.dropWhile (· = .scalar '0') with
  | [] => [.scalar '0']
  | rest => rest

/-- The mark `0x` and the digits without leading zeros. -/
def toShortText (a : Address) : Text := "0x" ++ significantDigits a.bytes.hex

/-- The text of the 64 digits a hexadecimal address stands for. -/
def hexDigits (t : Text) : Except Fault Text :=
  match t.dropPrefix? "0x" with
  | some digits =>
    if digits.length < 1 ∨ 64 < digits.length then .error (.markedDigitCount t)
    else .ok (List.replicate (64 - digits.length) (.scalar '0') ++ digits)
  | none => if t.length ≠ 64 then .error (.bareDigitCount t) else .ok t

/-- Reads an address in hexadecimal form. -/
def ofHex (t : Text) : Except Fault Address := do
  match Hex.decodeSpaced (← hexDigits t) with
  | .error position => .error (.notHex t position)
  | .ok bytes => ofBytes bytes

/-- Addresses in the order of their bytes. -/
def compare (a b : Address) : Ordering := Bytes.compare a.bytes b.bytes

end Address

end MovePack
