/-
# Bytes in hexadecimal notation

Two lower-case digits a byte when written, after the mark `0x` where a byte string stands on its
own.  Read in two ways: strictly, as pairs of digits and nothing else, and spaced, where ASCII
white space may stand between the pairs.
-/
import MovePack.Text.Encoding

namespace MovePack

namespace Bytes

/-- Two hexadecimal digits for each byte. -/
def hex (bytes : Bytes) : Text :=
  bytes.flatMap fun b => [.scalar (hexDigitChar (b.toNat / 16)), .scalar (hexDigitChar (b.toNat % 16))]

/-- The mark `0x` and two hexadecimal digits for each byte. -/
def markedHex (bytes : Bytes) : Text := "0x" ++ bytes.hex

end Bytes

namespace Hex

/-- Why a text is not a row of pairs of hexadecimal digits. -/
inductive Fault where
  /-- A character lies outside ASCII. -/
  | notAscii
  /-- The number of characters is odd. -/
  | oddLength
  /-- A character is not a hexadecimal digit. -/
  | notADigit
deriving DecidableEq, Repr

/-- The message of a failed reading. -/
def Fault.message : Fault → Text
  | .notAscii => "string argument should contain only ASCII characters"
  | .oddLength => "Odd-length string"
  | .notADigit => "Non-hexadecimal digit found"

/-- The bytes of pairs of digits, or `none` if something else occurs. -/
def pairs? : Text → Option Bytes
  | [] => some []
  | [_] => none
  | a :: b :: rest =>
    match a.hexDigit?, b.hexDigit?, pairs? rest with
    | some high, some low, some bytes => some (UInt8.ofNat (high * 16 + low) :: bytes)
    | _, _, _ => none

/-- Reads pairs of hexadecimal digits and nothing else. -/
def decode (t : Text) : Except Fault Bytes :=
  if !t.all CodePoint.isAscii then .error .notAscii
  else if t.length % 2 = 1 then .error .oddLength
  else match pairs? t with
    | some bytes => .ok bytes
    | none => .error .notADigit

/-- A text that does not denote bytes, and the reason. -/
structure MarkedFault where
  /-- The whole text. -/
  text : Text
  /-- The reason. -/
  reason : Fault
deriving DecidableEq, Repr

/-- The message of a text that does not denote bytes. -/
def MarkedFault.message (f : MarkedFault) : Text :=
  "decode hex-encoded string(" ++ f.text.quoted ++ ") failed, caused by error: "
    ++ f.reason.message

/-- Reads pairs of hexadecimal digits with or without the mark `0x` before them. -/
def decodeMarked (t : Text) : Except MarkedFault Bytes :=
  match decode ((t.dropPrefix? "0x").getD t) with
  | .ok bytes => .ok bytes
  | .error reason => .error ⟨t, reason⟩

/-- ASCII white space, which may stand between the pairs of a spaced row. -/
def isSpace (c : CodePoint) : Bool := c.toNat = 0x20 || (0x09 ≤ c.toNat && c.toNat ≤ 0x0D)

/-- The bytes of spaced pairs when `position` characters lie before them, or the position of the
first character that has no place. -/
def spacedFrom (position : Nat) : Text → Except Nat Bytes
  | [] => .ok []
  | a :: rest =>
    if isSpace a then spacedFrom (position + 1) rest
    else match a.hexDigit?, rest with
      | none, _ => .error position
      | some _, [] => .error (position + 1)
      | some high, b :: rest =>
        match b.hexDigit? with
        | none => .error (position + 1)
        | some low =>
          (spacedFrom (position + 2) rest).map (UInt8.ofNat (high * 16 + low) :: ·)

/-- Reads pairs of hexadecimal digits with ASCII white space between them.  A failure gives the
position of the first character beyond ASCII, or else of the first that has no place. -/
def decodeSpaced (t : Text) : Except Nat Bytes :=
  match t.findIdx? (!·.isAscii) with
  | some position => .error position
  | none => spacedFrom 0 t

end Hex

end MovePack
