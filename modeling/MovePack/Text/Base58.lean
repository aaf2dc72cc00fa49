/-
# Base58 text

A byte string is written as a number in base 58, in the letters and digits that are hard to
confuse: there is no zero, no capital I, no capital O and no small l.  A number has no leading
zeros, so every zero byte at the front is written as one leading `1`.  White space at the end of
a text is dropped before it is read.
-/
import MovePack.Text.Blank
import MovePack.Text.Encoding

namespace MovePack.Base58

/-- The characters of the digits 0 to 57. -/
def alphabet : Text := "123456789ABCDEFGHJKLMNPQRSTUVWXYZabcdefghijkmnopqrstuvwxyz"

/-- The value of a digit. -/
def digit? (c : CodePoint) : Option Nat := alphabet.idxOf? c

/-- The character of a digit. -/
def digitChar (digit : Nat) : CodePoint := alphabet.getD digit (.scalar '1')

/-- Why a text is not base58 text. -/
inductive Fault where
  /-- A run of characters lies outside ASCII. -/
  | notAscii (fault : EncodeFault)
  /-- A character is no digit. -/
  | invalidCharacter (c : CodePoint)
deriving DecidableEq, Repr

/-- The message of a failed reading. -/
def Fault.message : Fault → Text
  | .notAscii fault => fault.message
  | .invalidCharacter c => "Invalid character " ++ Text.quoted [c]

/-- The values of all digits, or the first character that is no digit. -/
def digitValues : Text → Except Fault (List Nat)
  | [] => .ok []
  | c :: rest =>
    match digit? c with
    | none => .error (.invalidCharacter c)
    | some digit => (digitValues rest).map (digit :: ·)

/-- The bytes of a base58 text. -/
def decode (t : Text) : Except Fault Bytes := do
  let digits := t.dropEndWhile CodePoint.isBlank
  match Charset.ascii.encode digits with
  | .error fault => .error (.notAscii fault)
  | .ok _ =>
    let ones := (digits.takeWhile (· = .scalar '1')).length
    let values ← digitValues (digits.drop ones)
    return List.replicate ones 0 ++ (Radix.digits 256 (Radix.value 58 values)).map UInt8.ofNat

/-- The base58 text of bytes. -/
def encode (bytes : Bytes) : Text :=
  let zeros := (bytes.takeWhile (· = 0)).length
  List.replicate zeros (.scalar '1')
    ++ (Radix.digits 58 (Radix.value 256 (bytes.map UInt8.toNat))).map digitChar

end MovePack.Base58
