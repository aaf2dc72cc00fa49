/-
# Linkage of a compiled module

Which module a binary holds, and which others it refers to.  A module handle is the place of an
address and the place of a name in their tables.  All handles but the one of the module itself
are dependencies.
-/
import MovePack.Bytecode.Header
import MovePack.Bytecode.ModuleId
import MovePack.Codec.Schema

namespace MovePack

/-- The linkage of a compiled module. -/
structure CompiledModule where
  /-- The version. -/
  version : Nat
  /-- The table of addresses. -/
  addresses : List Address
  /-- The table of names. -/
  identifiers : List Text
  /-- The table of module handles: places of address and name. -/
  handles : List (Nat × Nat)
  /-- The place of the handle of the module itself. -/
  selfIndex : Nat
  /-- All handles refer to an address and to a name. -/
  handles_valid : ∀ h ∈ handles, h.1 < addresses.length ∧ h.2 < identifiers.length
  /-- The module has a handle. -/
  self_valid : selfIndex < handles.length

namespace CompiledModule

open Bytecode (IntegrityFault Header)

/-- The first version in which the place of the module's own handle is given; before, it is the
first place. -/
def selfIndexVersion : Nat := 5

/-- The module of a handle. -/
def idOf (m : CompiledModule) (h : Nat × Nat)
    (valid : h.1 < m.addresses.length ∧ h.2 < m.identifiers.length) : ModuleId :=
  ⟨m.addresses[h.1], m.identifiers[h.2]⟩

/-- The modules of all handles. -/
def ids (m : CompiledModule) : List ModuleId := m.handles.pmap m.idOf m.handles_valid

/-- The module itself. -/
def id (m : CompiledModule) : ModuleId :=
  m.idOf (m.handles.get ⟨m.selfIndex, m.self_valid⟩) (m.handles_valid _ (List.get_mem _ _))

/-- The modules of all handles but the module's own. -/
def dependencies (m : CompiledModule) : List ModuleId := m.ids.eraseIdx m.selfIndex

/-! ## Reading -/

/-- Values up to the end of a table; each takes at least one byte, and `fuel` is the number of
bytes. -/
def readMany {α : Type} (r : Codec.Reader α) : (fuel : Nat) → Bytes →
    Except Codec.ReadFault (List α)
  | 0, _ => .ok []
  | _ + 1, [] => .ok []
  | fuel + 1, input =>
    match r.read input with
    | (.error fault, _) => .error fault
    | (.ok a, rest) => (readMany r fuel rest).map (a :: ·)

/-- Values up to the end of a table. -/
def readTable {α : Type} (r : Codec.Reader α) (table : Bytes) :
    Except Codec.ReadFault (List α) := readMany r table.length table

/-- The addresses of a table, which is a whole number of them. -/
def readAddresses (table : Bytes) : Except Codec.ReadFault (List Address) :=
  if table.length % Address.size ≠ 0 then .error .brokenAddressTable
  else readTable Address.reader table

/-- A module handle. -/
def handleReader : Codec.Reader (Nat × Nat) := do
  let address ← Codec.Reader.uleb
  let name ← Codec.Reader.uleb
  return (address, name)

/-- The place of the module's own handle. -/
def readSelfIndex (version : Nat) (trailer : Bytes) : Except Codec.ReadFault Nat :=
  if version < selfIndexVersion then .ok 0 else (Codec.Reader.uleb.read trailer).1

/-- The tables of a module and the place of its own handle. -/
def readTables (header : Header) (binary : Bytes) :
    Except Codec.ReadFault (List Address × List Text × List (Nat × Nat) × Nat) := do
  let addresses ← readAddresses (header.content binary .addresses)
  let identifiers ← readTable Codec.Reader.text (header.content binary .identifiers)
  let handles ← readTable handleReader (header.content binary .moduleHandles)
  let selfIndex ← readSelfIndex header.version (header.trailer binary)
  return (addresses, identifiers, handles, selfIndex)

/-- Reads the linkage of a compiled module. -/
def ofBinary (binary : Bytes) : Except IntegrityFault CompiledModule := do
  let header ← Header.ofBinary binary
  match readTables header binary with
  | .error fault => throw (.malformedTables fault)
  | .ok (addresses, identifiers, handles, selfIndex) =>
    if handles_valid : ∀ h ∈ handles, h.1 < addresses.length ∧ h.2 < identifiers.length then
      if self_valid : selfIndex < handles.length then
        return { version := header.version, addresses, identifiers, handles, selfIndex,
                 handles_valid, self_valid }
      else throw .selfHandleOutOfBounds
    else throw .handleOutOfBounds

end CompiledModule

end MovePack
