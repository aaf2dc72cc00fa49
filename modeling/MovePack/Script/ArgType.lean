/-
# Types of script arguments

An argument of a script is given together with its type.  Types are named without regard to
case.  The textual ones take their value as it stands, without quotes around it.
-/
import MovePack.Account.Address
import MovePack.Codec.Writer
import MovePack.Json.Reader
import MovePack.Text.LowerCase

namespace MovePack

/-- A type of script arguments. -/
inductive ArgType where
  /-- The address of an account that signs. -/
  | signer
  /-- An account address. -/
  | address
  /-- A truth value. -/
  | bool
  /-- A byte string in hexadecimal notation. -/
  | hex
  /-- A text. -/
  | string
  /-- An unsigned integer of 8 bits. -/
  | u8
  /-- An unsigned integer of 16 bits. -/
  | u16
  /-- An unsigned integer of 32 bits. -/
  | u32
  /-- An unsigned integer of 64 bits. -/
  | u64
  /-- An unsigned integer of 128 bits. -/
  | u128
  /-- An unsigned integer of 256 bits. -/
  | u256
  /-- Bytes in hexadecimal notation that are passed on as they are. -/
  | raw
deriving DecidableEq, Repr

/-- Why something is not an argument. -/
inductive ArgFault where
  /-- There is no type of the name. -/
  | unknownType (name : Text)
  /-- Type and value are not separated by a colon. -/
  | notAPair
  /-- The value is not a JSON text. -/
  | invalidJson (value : Text) (fault : Json.Fault)
  /-- The text is not a truth value. -/
  | notABool (text : Text)
  /-- The text is not an unsigned integer. -/
  | invalidDigit (type : Text) (text : Text)
  /-- The integer exceeds its type. -/
  | tooLarge (type : Text) (text : Text)
  /-- The text does not denote bytes. -/
  | invalidHex (fault : Hex.MarkedFault)
  /-- The text is not an account address. -/
  | invalidAddress (fault : Address.Fault)
  /-- The value has no serialized form. -/
  | unwritable (fault : Codec.WriteFault)
  /-- The elements of an array are nested to different depths. -/
  | depthMismatch
  /-- The value is null. -/
  | null
  /-- The value is an object. -/
  | object
deriving DecidableEq, Repr

namespace ArgType

/-- All types. -/
def all : List ArgType :=
  [.signer, .address, .bool, .hex, .string, .u8, .u16, .u32, .u64, .u128, .u256, .raw]

/-- The name of a type. -/
def name : ArgType → String
  | .signer => "signer"
  | .address => "address"
  | .bool => "bool"
  | .hex => "hex"
  | .string => "string"
  | .u8 => "u8"
  | .u16 => "u16"
  | .u32 => "u32"
  | .u64 => "u64"
  | .u128 => "u128"
  | .u256 => "u256"
  | .raw => "raw"

/-- The type of a name, which may be in any case. -/
def ofText (t : Text) : Except ArgFault ArgType :=
  match all.find? fun type => Text.ofString type.name = t.toLower with
  | some type => .ok type
  | none => .error (.unknownType t.toLower)

/-- A value of the type is given without quotes. -/
def isTextual : ArgType → Bool
  | .address | .signer | .hex | .string | .raw => true
  | _ => false

/-- The number of bytes of an integer type. -/
def width : ArgType → Nat
  | .u8 => 1
  | .u16 => 2
  | .u32 => 4
  | .u64 => 8
  | .u128 => 16
  | .u256 => 32
  | _ => 0

end ArgType

/-- The names of all types, between apostrophes. -/
def ArgFault.typeNames : Text :=
  Text.join "," (ArgType.all.map fun type => Text.between '\x27' type.name)

/-- The message of something that is not an argument. -/
def ArgFault.message : ArgFault → Text
  | .unknownType name =>
    "Invalid arg type '" ++ name ++ "'.  Must be one of: [" ++ typeNames ++ "]"
  | .notAPair => "Arguments must be pairs of <type>:<arg> e.g. bool:true"
  | .invalidJson _ (.tooDeep _) => "Invalid JSON argument: arrays are nested too deeply"
  | .invalidJson value fault => "Invalid JSON argument " ++ value.quoted ++ ": " ++ fault.message
  | .notABool text => "provided string was not `true` or `false`: " ++ text.quoted
  | .invalidDigit type text => "invalid digit found in " ++ type ++ " literal " ++ text.quoted
  | .tooLarge type text => "number too large to fit in target type " ++ type ++ ": " ++ text
  | .invalidHex fault => fault.message
  | .invalidAddress fault => fault.message
  | .unwritable fault => fault.message
  | .depthMismatch => "Variable vector depth"
  | .null => "Null argument"
  | .object => "JSON object argument"

end MovePack
