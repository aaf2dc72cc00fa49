/-
# The shape of a compiled script

After the contents of its tables a script has a list of type parameters, one byte each, then the
place of its parameters' signature, and then its code.  Whether the code is well formed is left to
the chain.
-/
import MovePack.Bytecode.Header

namespace MovePack.Bytecode.Script

/-- What precedes the code: the type parameters and the place of a signature. -/
def preamble : Codec.Reader Unit := do
  let count ← Codec.Reader.uleb
  let _ ← Codec.Reader.replicate Codec.Reader.u8 count
  let _ ← Codec.Reader.uleb

/-- The code follows the tables. -/
def checkBody (trailer : Bytes) : Except IntegrityFault Unit :=
  match preamble.read trailer with
  | (.error fault, _) => .error (.malformedScript fault)
  | (.ok (), []) => .error .noCode
  | (.ok (), _ :: _) => .ok ()

/-- The header of a binary that has the shape of a script. -/
def verify (binary : Bytes) : Except IntegrityFault Header := do
  let header ← Header.ofBinary binary
  if header.tables.any fun table => table.kind.isModuleOnly then throw .moduleTableInScript
  checkBody (header.trailer binary)
  return header

end MovePack.Bytecode.Script
