/-
# Assembling binaries

How a binary with given tables is put together, and how the linkage of a module is laid out in
tables.  Addresses and names stand in their tables once each, in the order in which the handles
first refer to them; the module's own handle comes last.  The tables may be made at once, or grow
while the handles are written one after the other.
-/
import MovePack.Bytecode.ModuleId
import MovePack.Bytecode.Table
import MovePack.Codec.Schema

namespace MovePack.Bytecode.Assembler

open Codec (Written WriteFault)

/-- The version of a binary unless another is asked for. -/
def defaultVersion : Int := 6

/-- The entries of the directory for tables that follow one another from an offset on. -/
def directory (offset : Nat) : List (Int × Bytes) → Written WriteFault
  | [] => Written.fixed []
  | (kind, content) :: rest =>
    Written.uint 1 kind ++ Written.uleb offset ++ Written.uleb content.length
      ++ directory (offset + content.length) rest

/-- The binary with the given kinds and contents of tables, and what comes after them. -/
def binary (tables : List (Int × Bytes)) (trailer : Bytes) (version : Int) :
    Written WriteFault :=
  Written.fixed magic ++ Written.uint 4 version ++ Written.uleb tables.length
    ++ directory 0 tables ++ Written.fixed (tables.map Prod.snd).flatten
    ++ Written.fixed trailer

/-- The handle of a module, as its places in the tables. -/
def handle (addresses : List Address) (names : List Text) (id : ModuleId) :
    Written WriteFault :=
  Written.uleb (addresses.idxOf id.address) ++ Written.uleb (names.idxOf id.name)

/-- The binary of a module that has nothing but its linkage. -/
def moduleBinary (id : ModuleId) (dependencies : List ModuleId) : Except WriteFault Bytes := do
  let ids := dependencies ++ [id]
  let addresses := (ids.map ModuleId.address).eraseDups
  let names := (ids.map ModuleId.name).eraseDups
  let handles ← (Written.concat (ids.map (handle addresses names))).toExcept
  let identifiers ← (Written.concat (names.map Written.text)).toExcept
  let selfIndex ← (Written.uleb dependencies.length).toExcept
  let tables : List (Int × Bytes) :=
    [(TableKind.moduleHandles.number, handles), (TableKind.identifiers.number, identifiers),
     (TableKind.addresses.number, (addresses.map Address.bytes).flatten)]
  (binary tables selfIndex defaultVersion).toExcept

/-! ## Tables that grow -/

/-- The pool with the value at its end, unless it is there already. -/
def enter {α : Type} [BEq α] (pool : List α) (a : α) : List α :=
  if pool.contains a then pool else pool ++ [a]

/-- The handles that have been written, and the addresses and names to which they refer. -/
structure Pools where
  /-- The addresses. -/
  addresses : List Address := []
  /-- The names. -/
  names : List Text := []
  /-- The handles. -/
  handles : Written WriteFault := Written.fixed []

/-- Writes the handle of a module after its address and its name have been entered. -/
def Pools.add (pools : Pools) (id : ModuleId) : Pools :=
  let addresses := enter pools.addresses id.address
  let names := enter pools.names id.name
  { addresses, names, handles := pools.handles ++ handle addresses names id }

end MovePack.Bytecode.Assembler
