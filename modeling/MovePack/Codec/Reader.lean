/-
# Reading the canonical serialization

Artifacts are written in the binary canonical serialization: integers in a fixed width with the
least significant byte first, and a variable-length count before every byte string, text and
sequence.  A reader takes bytes from the front of its input.  It answers with a value or a fault,
and in both cases with the bytes that are left: a failed read has used up what it looked at.

Most faults are faults of the bytes.  The operations that a reader is made of can also fail for a
cause of their own, which is no fault of the bytes unless the reader makes one of it.
-/
import MovePack.Text.Encoding

namespace MovePack.Codec

/-- The largest count that may precede a byte string or a sequence. -/
def maxCount : Nat := Nat.pow 2 32 - 1

/-- The largest number that can be an index into bytes.  No input has more bytes. -/
def maxIndex : Nat := Nat.pow 2 63 - 1

/-- A cause for which an operation fails whatever reader it is used in. -/
inductive ReadCause where
  /-- The number of bytes that are asked for is no index. -/
  | notAnIndex (count : Nat)
  /-- Bytes are not the UTF-8 form of a text. -/
  | undecodable (fault : DecodeFault)
  /-- Bytes are not an account address. -/
  | noAddress (message : Text)
  /-- A number is not that of a type tag. -/
  | noTypeTag (message : Text)
deriving DecidableEq, Repr

/-- The message of a cause. -/
def ReadCause.message : ReadCause → Text
  | .notAnIndex _ => "cannot fit 'int' into an index-sized integer"
  | .undecodable fault => fault.message
  | .noAddress message => message
  | .noTypeTag message => message

/-- Why bytes cannot be read as a value. -/
inductive ReadFault where
  /-- Fewer bytes are left than a read asks for. -/
  | endOfInput (requested found : Nat)
  /-- A byte other than 0 and 1 stands for a truth value. -/
  | notABool (value : Nat)
  /-- A variable-length integer exceeds 32 bits. -/
  | countTooLarge
  /-- The bytes of a text are not UTF-8. -/
  | notUtf8 (fault : DecodeFault)
  /-- A type tag names a struct. -/
  | structTypeTag
  /-- No type tag has the number. -/
  | unknownTypeTag (variant : Nat)
  /-- The bytes of an address table are no whole number of addresses. -/
  | brokenAddressTable
  /-- Bytes are left after the value. -/
  | trailingBytes (count : Nat)
  /-- An operation failed, which is no fault of the bytes. -/
  | foreign (cause : ReadCause)
deriving DecidableEq, Repr

/-- The message of a failed read. -/
def ReadFault.message : ReadFault → Text
  | .endOfInput requested found =>
    "Unexpected end of input. Requested: " ++ Text.ofNat requested ++ ", found: "
      ++ Text.ofNat found
  | .notABool value => "Unexpected boolean value: " ++ Text.ofNat value
  | .countTooLarge => "Unexpectedly large uleb128 value"
  | .notUtf8 fault => "Invalid UTF-8 string: " ++ fault.message
  | .structTypeTag => "Struct type tags are not supported"
  | .unknownTypeTag variant => "Unknown type tag variant " ++ Text.ofNat variant
  | .brokenAddressTable => "Address table length is not a multiple of the address size"
  | .trailingBytes count => Text.ofNat count ++ " unexpected trailing bytes"
  | .foreign cause => cause.message

/-- The fault is one of the bytes. -/
def ReadFault.IsOfBytes (fault : ReadFault) : Prop := ∀ cause, fault ≠ .foreign cause

/-- A reader of values: from the input, the outcome and the bytes that are left. -/
abbrev Reader (α : Type) := ExceptT ReadFault (StateM Bytes) α

namespace Reader

variable {α : Type}

/-- The outcome on an input, and the bytes that are left. -/
def read (r : Reader α) (input : Bytes) : Except ReadFault α × Bytes := r.run.run input

/-- Refuses the input at this place. -/
def fail (fault : ReadFault) : Reader α := throw fault

/-- Takes the given number of bytes; a short input is used up.  A number that is no index, and so
larger than the input, is not asked for. -/
def take (count : Nat) : Reader Bytes := do
  let input ← getThe Bytes
  if input.length < count ∧ maxIndex < count then fail (.foreign (.notAnIndex count))
  set (input.drop count)
  let taken := input.take count
  if taken.length < count then fail (.endOfInput count taken.length)
  return taken

/-- Takes all bytes that are left. -/
def takeAll : Reader Bytes := do
  let input ← getThe Bytes
  set ([] : Bytes)
  return input

/-- An unsigned integer of the given number of bytes. -/
def uint (width : Nat) : Reader Nat := return Bytes.ofLittleEndian (← take width)

/-- A byte, as a number. -/
def u8 : Reader Nat := uint 1

/-- The number of bytes that are left. -/
def remaining : Reader Nat := return (← getThe Bytes).length

/-- A truth value: the byte 0 or the byte 1. -/
def bool : Reader Bool := do
  match ← u8 with
  | 0 => return false
  | 1 => return true
  | value => fail (.notABool value)

/-- The outcome of a variable-length integer whose lower groups add up to `value`, the next group
counting `weight`, and the bytes that are left.  Groups of seven bits follow one another as long
as the highest bit of their byte is set and the sum fits into 32 bits. -/
def ulebFrom (value weight : Nat) : Bytes → Except ReadFault Nat × Bytes
  | [] => (.error (.endOfInput 1 0), [])
  | b :: rest =>
    let sum := value + b.toNat % 128 * weight
    if maxCount < sum then (.error .countTooLarge, rest)
    else if b.toNat < 128 then (.ok sum, rest)
    else ulebFrom sum (weight * 128) rest

/-- A variable-length integer, which must fit into 32 bits. -/
def uleb : Reader Nat := ExceptT.mk (ulebFrom 0 1)

/-- The outcome of a variable-length integer, found by a loop over single bytes.  As long as the
number fits, the bits of the next group are put above those of the groups before it. -/
def bitsFrom (value shift : Nat) (input : Bytes) : Except ReadFault Nat × Bytes :=
  if maxCount < value then (.error .countTooLarge, input)
  else
    match input with
    | [] => (.error (.endOfInput 1 0), [])
    | b :: rest =>
      let value := value ||| (b.toNat &&& 0x7f) <<< shift
      if b.toNat &&& 0x80 = 0 then
        (if maxCount < value then .error .countTooLarge else .ok value, rest)
      else bitsFrom value (shift + 7) rest

/-- A byte string, after the count of its bytes. -/
def bytes : Reader Bytes := do take (← uleb)

/-- The text of a UTF-8 form. -/
def decoded (bytes : Bytes) : Reader Text :=
  match Utf8.decode bytes with
  | .ok t => return t
  | .error fault => fail (.foreign (.undecodable fault))

/-- A text in UTF-8, after the count of its bytes. -/
def text : Reader Text :=
  tryCatch (do decoded (← bytes)) fun
    | .foreign (.undecodable fault) => fail (.notUtf8 fault)
    | fault => throw fault

/-- The given number of values, one after the other. -/
def replicate (r : Reader α) : Nat → Reader (List α)
  | 0 => return []
  | count + 1 => return (← r) :: (← replicate r count)

/-- A sequence of values, after their count. -/
def sequence (r : Reader α) : Reader (List α) := do replicate r (← uleb)

/-- Reads the whole input as one value. -/
def readAll (r : Reader α) (input : Bytes) : Except ReadFault α :=
  match r.read input with
  | (.ok a, []) => .ok a
  | (.ok _, rest) => .error (.trailingBytes rest.length)
  | (.error fault, _) => .error fault

end Reader

end MovePack.Codec
