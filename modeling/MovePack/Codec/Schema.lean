/-
# Schemas of the canonical serialization

A schema says what kind of value stands in serialized bytes.  It determines the type of the
values, how one is written and how one is read.
-/
import MovePack.Account.Address
import MovePack.Types.TypeTag

namespace MovePack

namespace Address

/-- An address is written as its bytes. -/
def write (a : Address) : Codec.Written Codec.WriteFault := Codec.Written.fixed a.bytes

/-- Reads an address: 32 bytes. -/
def reader : Codec.Reader Address := do
  match ofBytes (← Codec.Reader.take size) with
  | .ok a => return a
  | .error fault => Codec.Reader.fail (.foreign (.noAddress fault.message))

end Address

namespace Codec

/-- A kind of serialized value. -/
inductive Schema where
  /-- A truth value in one byte. -/
  | bool
  /-- An unsigned integer of the given number of bytes. -/
  | uint (width : Nat)
  /-- A variable-length integer of at most 32 bits. -/
  | uleb
  /-- A byte string after its length. -/
  | bytes
  /-- A given number of bytes. -/
  | fixed (length : Nat)
  /-- All bytes that are left. -/
  | rest
  /-- A text in UTF-8 after the length of that form. -/
  | text
  /-- An account address. -/
  | address
  /-- A type tag. -/
  | typeTag
  /-- A sequence of values of one kind after their count. -/
  | sequence (element : Schema)
deriving DecidableEq, Repr

namespace Schema

/-- The values of a schema.  Integers are not bounded here: a value out of range can be given to
the writer, which refuses it. -/
abbrev Carrier : Schema → Type
  | .bool => Bool
  | .uint _ => Int
  | .uleb => Int
  | .bytes => Bytes
  | .fixed _ => Bytes
  | .rest => Bytes
  | .text => Text
  | .address => Address
  | .typeTag => TypeTag
  | .sequence element => List element.Carrier

/-- Writes a value. -/
def write : (t : Schema) → t.Carrier → Written WriteFault
  | .bool, b => Written.bool b
  | .uint width, n => Written.uint width n
  | .uleb, n => Written.uleb n
  | .bytes, b => Written.countedBytes b
  | .fixed _, b => Written.fixed b
  | .rest, b => Written.fixed b
  | .text, t => Written.text t
  | .address, a => a.write
  | .typeTag, tag => tag.write
  | .sequence element, values => Written.sequence element.write values

/-- Reads a value. -/
def reader : (t : Schema) → Reader t.Carrier
  | .bool => Reader.bool
  | .uint width => return ((← Reader.uint width : Nat) : Int)
  | .uleb => return ((← Reader.uleb : Nat) : Int)
  | .bytes => Reader.bytes
  | .fixed length => Reader.take length
  | .rest => Reader.takeAll
  | .text => Reader.text
  | .address => Address.reader
  | .typeTag => TypeTag.reader
  | .sequence element => Reader.sequence element.reader

end Schema

end Codec

end MovePack
