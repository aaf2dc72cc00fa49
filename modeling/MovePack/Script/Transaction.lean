/-
# Script transactions

A transaction runs a compiled script with given arguments and type arguments.  It is serialized as
the binary of the script, the sequence of the arguments, each a byte string, and the sequence of
the type tags.  The hash of this form identifies the call.
-/
import MovePack.Bytecode.Script
import MovePack.Codec.Schema
import MovePack.Hash.Blake2
import MovePack.Script.Argument
import MovePack.Types.MoveType

namespace MovePack

/-- What a script is called with. -/
structure ScriptArguments where
  /-- The type arguments. -/
  types : List MoveType
  /-- The arguments. -/
  args : List Argument

namespace ScriptArguments

/-- Reads type arguments and arguments. -/
def ofTexts (types args : List Text) : Except ArgFault ScriptArguments := do
  return ⟨types.map MoveType.ofText, ← args.mapM Argument.ofText⟩

/-- The tags of the type arguments. -/
def typeTags (a : ScriptArguments) : Except MoveType.ConversionFault (List TypeTag) :=
  a.types.mapM MoveType.toTypeTag

end ScriptArguments

/-- Why no transaction is made of a binary and arguments. -/
inductive TransactionFault where
  /-- The binary does not have the shape of a script. -/
  | notAScript (fault : Bytecode.IntegrityFault)
  /-- A type argument has no type tag. -/
  | noTypeTag (fault : MoveType.ConversionFault)
deriving DecidableEq

/-- The message of a fault. -/
def TransactionFault.message : TransactionFault → Text
  | .notAScript fault => fault.message
  | .noTypeTag fault => fault.message

/-- A script with its arguments and type arguments. -/
structure ScriptTransaction where
  /-- The binary of the script. -/
  bytecode : Bytes
  /-- The arguments. -/
  args : List Bytes
  /-- The type arguments. -/
  typeArgs : List TypeTag
deriving DecidableEq

namespace ScriptTransaction

open Codec (Reader ReadFault Written WriteFault)

/-- The transaction of a script and its arguments.  Whether these fit the parameters of the script
is left to the chain. -/
def create (bytecode : Bytes) (arguments : ScriptArguments) :
    Except TransactionFault ScriptTransaction :=
  match Bytecode.Script.verify bytecode with
  | .error fault => .error (.notAScript fault)
  | .ok _ =>
    match arguments.typeTags with
    | .error fault => .error (.noTypeTag fault)
    | .ok typeArgs => .ok ⟨bytecode, arguments.args.map Argument.bytes, typeArgs⟩

/-- Writes a transaction. -/
def write (tx : ScriptTransaction) : Written WriteFault :=
  Written.countedBytes tx.bytecode ++ Written.sequence Written.countedBytes tx.args
    ++ Written.sequence TypeTag.write tx.typeArgs

/-- Reads a transaction. -/
def reader : Reader ScriptTransaction := do
  let bytecode ← Reader.bytes
  let args ← Reader.sequence Reader.bytes
  let typeArgs ← Reader.sequence TypeTag.reader
  return ⟨bytecode, args, typeArgs⟩

/-- The serialized form of a transaction. -/
def encode (tx : ScriptTransaction) : Except WriteFault Bytes := tx.write.toExcept

/-- The transaction of its serialized form. -/
def ofBytes (bytes : Bytes) : Except ReadFault ScriptTransaction := reader.readAll bytes

/-- The hash that identifies a call, of a serialized transaction. -/
def callHash (encoded : Bytes) : Bytes := Blake2.hash256 encoded

/-- The text of a transaction: the length of the script, the number of the arguments and the type
arguments. -/
def toText (tx : ScriptTransaction) : Text :=
  "ScriptTransaction(bytecode: " ++ Text.ofNat tx.bytecode.length ++ " bytes, args: "
    ++ Text.ofNat tx.args.length ++ ", type_args: ["
    ++ Text.join ", " (tx.typeArgs.map TypeTag.toText) ++ "])"

end ScriptTransaction

end MovePack
