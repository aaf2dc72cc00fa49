/-
# Type tags

A type tag is what the chain accepts as a type argument: a primitive type, or vectors of vectors
of one.  Nothing but the number of vectors and the innermost primitive type can be told from a
tag, so these two make up the type.  A tag is written as the number 6 once for every vector, and
then the number of the primitive type.
-/
import MovePack.Codec.Writer

namespace MovePack

/-- The primitive types. -/
inductive Primitive where
  | bool
  | u8
  | u16
  | u32
  | u64
  | u128
  | u256
  | address
  | signer
deriving DecidableEq, Repr

namespace Primitive

/-- All primitive types. -/
def all : List Primitive := [.bool, .u8, .u16, .u32, .u64, .u128, .u256, .address, .signer]

/-- The name in type signatures. -/
def name : Primitive → String
  | .bool => "bool"
  | .u8 => "u8"
  | .u16 => "u16"
  | .u32 => "u32"
  | .u64 => "u64"
  | .u128 => "u128"
  | .u256 => "u256"
  | .address => "address"
  | .signer => "signer"

/-- The number in the serialized form. -/
def variant : Primitive → Nat
  | .bool => 0
  | .u8 => 1
  | .u64 => 2
  | .u128 => 3
  | .address => 4
  | .signer => 5
  | .u16 => 8
  | .u32 => 9
  | .u256 => 10

/-- The primitive type of a name. -/
def ofName? (t : Text) : Option Primitive := all.find? fun p => Text.ofString p.name = t

/-- The primitive type of a number. -/
def ofVariant? (variant : Nat) : Option Primitive := all.find? fun p => p.variant = variant

end Primitive

/-- A type tag: a primitive type inside a number of vectors. -/
structure TypeTag where
  /-- The number of vectors around the primitive type. -/
  depth : Nat
  /-- The primitive type. -/
  element : Primitive
deriving DecidableEq, Repr

namespace TypeTag

/-- The number of a vector in the serialized form. -/
def vectorVariant : Nat := 6

/-- The number of a struct in the serialized form, which no tag carries. -/
def structVariant : Nat := 7

/-- Why no tag has the given number. -/
inductive BuildFault where
  /-- A vector of nothing. -/
  | vectorOfNothing
  /-- The number is neither a vector's nor that of a primitive type. -/
  | unsupported (variant : Int)
deriving DecidableEq, Repr

/-- The message of a refused number. -/
def BuildFault.message : BuildFault → Text
  | .vectorOfNothing => "vector type tag requires an element type"
  | .unsupported variant => "unsupported type tag variant " ++ Text.ofInt variant

/-- The tag of a number alone. -/
def single (variant : Int) : Except BuildFault TypeTag :=
  if variant = vectorVariant then .error .vectorOfNothing
  else match if variant < 0 then none else Primitive.ofVariant? variant.toNat with
    | some element => .ok ⟨0, element⟩
    | none => .error (.unsupported variant)

/-- The tag of a number around another tag.  Any supported number may stand there; what can be
told from the tag is that the other one lies one layer deeper. -/
def around (variant : Int) (value : TypeTag) : Except BuildFault TypeTag :=
  if variant = vectorVariant then .ok { value with depth := value.depth + 1 }
  else match single variant with
    | .ok _ => .ok { value with depth := value.depth + 1 }
    | .error fault => .error fault

/-- The tag of a number inside the given number of vectors. -/
def nested (depth : Nat) (variant : Int) : Except BuildFault TypeTag :=
  match single variant with
  | .ok tag => .ok { tag with depth }
  | .error fault => .error fault

/-- The number of vectors, and the number of the primitive type. -/
def unwrap (tag : TypeTag) : Nat × Nat := (tag.depth, tag.element.variant)

/-- The type signature of the tag. -/
def toText (tag : TypeTag) : Text :=
  (List.replicate tag.depth (Text.ofString "vector<")).flatten ++ Text.ofString tag.element.name
    ++ List.replicate tag.depth (CodePoint.scalar '>')

/-- The serialized form. -/
def write (tag : TypeTag) : Codec.Written Codec.WriteFault :=
  Codec.Written.fixed (List.replicate tag.depth (UInt8.ofNat vectorVariant)
    ++ [UInt8.ofNat tag.element.variant])

/-- The tag whose innermost number has been found inside a number of vectors. -/
def ofInnermost (depth variant : Nat) : Except Codec.ReadFault TypeTag :=
  if variant = structVariant then .error .structTypeTag
  else if Primitive.ofVariant? variant = none then .error (.unknownTypeTag variant)
  else (nested depth variant).mapError fun fault => .foreign (.noTypeTag fault.message)

/-- The outcome of reading the numbers of a tag, after `depth` vectors, with room for `fuel` more
numbers, and the bytes that are left. -/
def readNumbers (depth : Nat) : (fuel : Nat) → Bytes → Except Codec.ReadFault TypeTag × Bytes
  | 0, input => (.error (.endOfInput 1 0), input)
  | fuel + 1, input =>
    match Codec.Reader.uleb.read input with
    | (.error fault, rest) => (.error fault, rest)
    | (.ok variant, rest) =>
      if variant = vectorVariant then readNumbers (depth + 1) fuel rest
      else (ofInnermost depth variant, rest)

/-- Reads a tag.  Every number takes at least one byte, so there are no more numbers than bytes. -/
def reader : Codec.Reader TypeTag :=
  ExceptT.mk fun input => readNumbers 0 (input.length + 1) input

end TypeTag

end MovePack
