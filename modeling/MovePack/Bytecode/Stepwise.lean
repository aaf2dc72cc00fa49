/-
# Reading a binary step by step

Here the readers of a module and of a script are laid out with everything that could stop them, each
cause where it arises: bytes that are no value or no address, an operation of a reader that fails, a
place beyond the end of a list, a table that the directory does not have, a table that is never used
up.  A handler makes a refusal of the faults of the bytes; every other cause goes through.
-/
import MovePack.Bytecode.Linkage
import MovePack.Bytecode.Script

namespace MovePack

namespace Bytecode

open Codec (ReadCause ReadFault Reader)

/-- What can stop the reading of a binary. -/
inductive Stop where
  /-- The binary is refused. -/
  | refusal (fault : IntegrityFault)
  /-- Bytes cannot be read as a value, or an operation of a reader has failed. -/
  | unreadable (fault : ReadFault)
  /-- Bytes are not an address. -/
  | noAddress (fault : Address.Fault)
  /-- The directory has no entry for a table that is looked up. -/
  | missingTable (kind : TableKind)
  /-- A place is beyond the end of the list it is looked up in. -/
  | outOfRange (place length : Nat)
  /-- A table is not used up by as many values as it has bytes. -/
  | endless

namespace Stop

/-- A fault of the bytes is a reason to refuse the binary; no other cause is. -/
def asRefusal (reason : ReadFault → IntegrityFault) : Stop → Stop
  | .unreadable (.foreign cause) => .unreadable (.foreign cause)
  | .unreadable fault => .refusal (reason fault)
  | stop => stop

end Stop

/-! ## Reading step by step -/

namespace Stepwise

variable {α : Type}

/-- The value at a place of a list. -/
def lookUp (l : List α) (place : Nat) : Except Stop α :=
  match l[place]? with
  | some a => .ok a
  | none => .error (.outOfRange place l.length)

/-- A value at the beginning of bytes, and the bytes after it. -/
def step (r : Reader α) (input : Bytes) : Except Stop (α × Bytes) :=
  match r.read input with
  | (.ok a, rest) => .ok (a, rest)
  | (.error fault, _) => .error (.unreadable fault)

/-- The given number of further entries of a directory, and the bytes after them. -/
def entries (before : List Table) : Nat → Bytes → Except Stop (List Table × Bytes)
  | 0, input => .ok (before, input)
  | count + 1, input => do
    let (numbers, rest) ← step Header.entry input
    let table ← (Header.checkEntry before numbers).mapError .refusal
    entries (before ++ [table]) count rest

/-- The version and the directory of a binary, and the bytes after them. -/
def directory (binary : Bytes) : Except Stop (Nat × List Table × Bytes) := do
  let (mark, rest) ← step (Reader.take magic.length) binary
  if mark ≠ magic then throw (.refusal .missingMagic)
  let (word, rest) ← step (Reader.uint 4) rest
  let version := word % Nat.pow 2 24
  if version < minVersion ∨ maxVersion < version then
    throw (.refusal (.unsupportedVersion version))
  let (count, rest) ← step Reader.uleb rest
  let (tables, rest) ← entries [] count rest
  return (version, tables, rest)

/-- The header of a binary. -/
def header (binary : Bytes) : Except Stop Header := do
  let (version, tables, rest) ← (directory binary).mapError (.asRefusal .malformedHeader)
  match Header.contentLength? tables with
  | none => throw (.refusal .badOffsets)
  | some length =>
    if rest.length < length then throw (.refusal .contentsTooLong)
    let contentStart := binary.length - rest.length
    return { version, tables, contentStart, contentEnd := contentStart + length }

/-- The entry of a kind in the directory. -/
def entry (header : Header) (kind : TableKind) : Except Stop Table :=
  match header.find? kind with
  | some table => .ok table
  | none => .error (.missingTable kind)

/-- The content of the table of a kind; without an entry it is not looked up. -/
def content (header : Header) (binary : Bytes) (kind : TableKind) : Except Stop Bytes :=
  if header.find? kind = none then .ok []
  else do
    let table ← entry header kind
    return (binary.drop (header.contentStart + table.offset)).take table.length

/-- The parts of bytes from every multiple of a size on, each as long as this size if there are
as many bytes. -/
def slices (size : Nat) (bytes : Bytes) : List Bytes :=
  (List.range ((bytes.length + size - 1) / size)).map fun i => (bytes.drop (i * size)).take size

/-- The addresses of a table. -/
def addresses (table : Bytes) : Except Stop (List Address) :=
  if table.length % Address.size ≠ 0 then .error (.unreadable .brokenAddressTable)
  else (slices Address.size table).mapM fun bytes => (Address.ofBytes bytes).mapError .noAddress

/-- Values up to the end of a table, of which there are no more than `fuel`. -/
def values (read : Bytes → Except Stop (α × Bytes)) : (fuel : Nat) → Bytes → Except Stop (List α)
  | _, [] => .ok []
  | 0, _ :: _ => .error .endless
  | fuel + 1, input => do
    let (a, rest) ← read input
    let others ← values read fuel rest
    return a :: others

/-- The place of the module's own handle. -/
def selfIndex (version : Nat) (trailer : Bytes) : Except Stop Nat :=
  if CompiledModule.selfIndexVersion ≤ version then (step Reader.uleb trailer).map Prod.fst
  else .ok 0

end Stepwise

/-- The linkage of a module as bare tables, whose places may lead anywhere. -/
structure Linkage where
  /-- The version. -/
  version : Nat
  /-- The table of addresses. -/
  addresses : List Address
  /-- The table of names. -/
  identifiers : List Text
  /-- The table of module handles: places of address and name. -/
  handles : List (Nat × Nat)
  /-- The place of the handle of the module itself. -/
  selfIndex : Nat

namespace Linkage

open Stepwise (lookUp)

/-- The module of the handle at a place. -/
def idAt (l : Linkage) (place : Nat) : Except Stop ModuleId := do
  let (address, name) ← lookUp l.handles place
  return ⟨← lookUp l.addresses address, ← lookUp l.identifiers name⟩

/-- The module itself. -/
def selfId (l : Linkage) : Except Stop ModuleId := l.idAt l.selfIndex

/-- The modules of the handles at all places but the module's own. -/
def dependencies (l : Linkage) : Except Stop (List ModuleId) :=
  ((List.range l.handles.length).filter fun place => place ≠ l.selfIndex).mapM l.idAt

end Linkage

namespace Stepwise

/-- The tables of a module, and the place of its own handle. -/
def tables (header : Header) (binary : Bytes) : Except Stop Linkage := do
  let addresses ← addresses (← content header binary .addresses)
  let names ← content header binary .identifiers
  let identifiers ← values (step Reader.text) names.length names
  let places ← content header binary .moduleHandles
  let handles ← values (step CompiledModule.handleReader) places.length places
  let selfIndex ← selfIndex header.version (header.trailer binary)
  return ⟨header.version, addresses, identifiers, handles, selfIndex⟩

/-- The linkage of a compiled module. -/
def linkage (binary : Bytes) : Except Stop Linkage := do
  let header ← header binary
  let l ← (tables header binary).mapError (.asRefusal .malformedTables)
  if l.handles.any fun h => l.addresses.length ≤ h.1 || l.identifiers.length ≤ h.2 then
    throw (.refusal .handleOutOfBounds)
  if l.handles.length ≤ l.selfIndex then throw (.refusal .selfHandleOutOfBounds)
  return l

/-- The header of a binary that has the shape of a script. -/
def script (binary : Bytes) : Except Stop Header := do
  let header ← header binary
  if header.tables.any fun table => table.kind.isModuleOnly then
    throw (.refusal .moduleTableInScript)
  let ((), rest) ← (step Script.preamble (header.trailer binary)).mapError
    (.asRefusal .malformedScript)
  if rest = [] then throw (.refusal .noCode)
  return header

end Stepwise

end Bytecode

/-- The linkage of a module as bare tables. -/
def CompiledModule.linkage (m : CompiledModule) : Bytecode.Linkage :=
  ⟨m.version, m.addresses, m.identifiers, m.handles, m.selfIndex⟩

end MovePack
