/-
# The header of a binary

A compiled module or script begins with four marking bytes, a version and a directory of tables.
The contents of the tables follow without gap or overlap, whatever the order of the directory, and
after them comes the rest of the binary.
-/
import MovePack.Bytecode.Table
import MovePack.Codec.Reader

namespace MovePack.Bytecode

/-- Why a byte string is not a compiled module or script. -/
inductive IntegrityFault where
  /-- The marking bytes are missing. -/
  | missingMagic
  /-- The version is not supported. -/
  | unsupportedVersion (version : Nat)
  /-- The directory names an unknown kind of table. -/
  | unknownTable (number : Nat)
  /-- The directory names a kind of table twice. -/
  | duplicateTable (kind : TableKind)
  /-- A table has no content. -/
  | emptyTable (kind : TableKind)
  /-- The header cannot be read. -/
  | malformedHeader (fault : Codec.ReadFault)
  /-- The tables leave gaps or overlap. -/
  | badOffsets
  /-- The tables reach beyond the end of the binary. -/
  | contentsTooLong
  /-- A table of a module cannot be read. -/
  | malformedTables (fault : Codec.ReadFault)
  /-- A module handle refers to a missing address or name. -/
  | handleOutOfBounds
  /-- The handle of the module itself is missing. -/
  | selfHandleOutOfBounds
  /-- A script has a table that only modules may have. -/
  | moduleTableInScript
  /-- The body of a script cannot be read. -/
  | malformedScript (fault : Codec.ReadFault)
  /-- A script ends before its code. -/
  | noCode
deriving DecidableEq, Repr

/-- The message of a byte string that is not a compiled module or script. -/
def IntegrityFault.message : IntegrityFault → Text
  | .missingMagic => "Bad binary header: missing Move magic"
  | .unsupportedVersion version => "Unsupported bytecode version " ++ Text.ofNat version
  | .unknownTable number => "Unknown table kind " ++ kindText number
  | .duplicateTable kind => "Duplicate table kind " ++ kindText kind.number
  | .emptyTable kind => "Empty table kind " ++ kindText kind.number
  | .malformedHeader fault => "Malformed binary header: " ++ fault.message
  | .badOffsets => "Bad table offsets in binary header"
  | .contentsTooLong => "Table contents exceed binary length"
  | .malformedTables fault => "Malformed module tables: " ++ fault.message
  | .handleOutOfBounds => "Module handle index out of bounds"
  | .selfHandleOutOfBounds => "Self module handle index out of bounds"
  | .moduleTableInScript => "Bad table in Script"
  | .malformedScript fault => "Malformed script body: " ++ fault.message
  | .noCode => "Script has no code"

/-- The oldest version that is supported. -/
def minVersion : Nat := 1

/-- The newest version that is supported. -/
def maxVersion : Nat := 7

/-- The header of a binary. -/
structure Header where
  /-- The version. -/
  version : Nat
  /-- The directory. -/
  tables : List Table
  /-- The number of bytes before the contents of the tables. -/
  contentStart : Nat
  /-- The number of bytes before the end of these contents. -/
  contentEnd : Nat
deriving DecidableEq, Repr

namespace Header

/-- The entry of a kind. -/
def find? (header : Header) (kind : TableKind) : Option Table :=
  header.tables.find? fun table => table.kind = kind

/-- The content of the table of a kind in the binary with this header; a missing table has
none. -/
def content (header : Header) (binary : Bytes) (kind : TableKind) : Bytes :=
  match header.find? kind with
  | none => []
  | some table => (binary.drop (header.contentStart + table.offset)).take table.length

/-- What follows the contents of the tables in the binary with this header. -/
def trailer (header : Header) (binary : Bytes) : Bytes := binary.drop header.contentEnd

/-- A part of the header at the beginning of bytes, and the bytes after it. -/
def part {α : Type} (r : Codec.Reader α) (input : Bytes) : Except IntegrityFault (α × Bytes) :=
  match r.read input with
  | (.ok a, rest) => .ok (a, rest)
  | (.error fault, _) => .error (.malformedHeader fault)

/-- An entry of the directory as numbers: kind, offset and length. -/
def entry : Codec.Reader (Nat × Nat × Nat) := do
  let number ← Codec.Reader.u8
  let offset ← Codec.Reader.uleb
  let length ← Codec.Reader.uleb
  return (number, offset, length)

/-- The entry with the given numbers, after the entries `before` it. -/
def checkEntry (before : List Table) : Nat × Nat × Nat → Except IntegrityFault Table
  | (number, offset, length) =>
    match TableKind.ofNumber? number with
    | none => .error (.unknownTable number)
    | some kind =>
      if before.any fun table => table.kind = kind then .error (.duplicateTable kind)
      else if length = 0 then .error (.emptyTable kind)
      else .ok ⟨kind, offset, length⟩

/-- The given number of further entries at the beginning of bytes, after the entries `before`
them, and the bytes after them. -/
def readTables (before : List Table) : Nat → Bytes → Except IntegrityFault (List Table × Bytes)
  | 0, input => .ok (before, input)
  | count + 1, input => do
    let (numbers, rest) ← part entry input
    let table ← checkEntry before numbers
    readTables (before ++ [table]) count rest

/-- The first table does not come after the second one in the content. -/
def notAfter (a b : Table) : Bool :=
  a.offset < b.offset || (a.offset = b.offset && a.length ≤ b.length)

/-- The end of tables that follow one another from the given place on, or `none` if they leave
gaps or overlap. -/
def tile? (start : Nat) : List Table → Option Nat
  | [] => some start
  | table :: rest => if table.offset = start then tile? (start + table.length) rest else none

/-- The length of the contents of all tables, which must follow one another from the beginning
on in some order. -/
def contentLength? (tables : List Table) : Option Nat := tile? 0 (tables.mergeSort notAfter)

/-- Reads the header of a binary.  Of the version only the three lower bytes count. -/
def ofBinary (binary : Bytes) : Except IntegrityFault Header := do
  let (mark, rest) ← part (Codec.Reader.take magic.length) binary
  if mark ≠ magic then throw .missingMagic
  let (word, rest) ← part (Codec.Reader.uint 4) rest
  let version := word % Nat.pow 2 24
  if version < minVersion ∨ maxVersion < version then throw (.unsupportedVersion version)
  let (count, rest) ← part Codec.Reader.uleb rest
  let (tables, rest) ← readTables [] count rest
  match contentLength? tables with
  | none => throw .badOffsets
  | some length =>
    if rest.length < length then throw .contentsTooLong
    let contentStart := binary.length - rest.length
    return { version, tables, contentStart, contentEnd := contentStart + length }

end Header

end MovePack.Bytecode
