/-
# Module descriptors

A compiled module as the bundler sees it: its identity, the modules it depends on and its binary.
Two descriptors of one identity describe the same module, and of several copies the last one
counts.
-/
import MovePack.Bytecode.Linkage

namespace MovePack

/-- The modules of a list in ascending order, each once. -/
def ModuleId.ascending (l : List ModuleId) : List ModuleId := (l.mergeSort le).eraseDups

/-- A compiled module with its identity and the modules it depends on. -/
structure ModuleDescriptor where
  /-- The identity. -/
  id : ModuleId
  /-- The modules it depends on. -/
  dependencies : List ModuleId
  /-- The binary. -/
  code : Bytes
deriving DecidableEq

namespace ModuleDescriptor

/-- The descriptor of a binary. -/
def ofBinary (code : Bytes) : Except Bytecode.IntegrityFault ModuleDescriptor := do
  let m ← CompiledModule.ofBinary code
  return ⟨m.id, m.dependencies, code⟩

/-- Both describe the same module. -/
def sameModule (a b : ModuleDescriptor) : Bool := a.id = b.id

/-- The text of a descriptor. -/
def toText (d : ModuleDescriptor) : Text := "ModuleDescriptor(" ++ d.id.toText ++ ")"

/-- The modules that are described. -/
def ids (modules : List ModuleDescriptor) : List ModuleId := modules.map (·.id)

/-- The last descriptor of a module. -/
def lastCopy? (modules : List ModuleDescriptor) (id : ModuleId) : Option ModuleDescriptor :=
  modules.reverse.find? fun d => d.id = id

/-- The modules depended on, each once, in ascending order. -/
def distinctDependencies (d : ModuleDescriptor) : List ModuleId :=
  (d.dependencies.mergeSort ModuleId.le).eraseDups

/-- The dependencies that are among given modules, each once, in ascending order. -/
def dependenciesAmong (known : List ModuleDescriptor) (d : ModuleDescriptor) : List ModuleId :=
  d.distinctDependencies.filter fun id => known.any fun e => e.id = id

/-- The last copy of each module, ascending. -/
def lastCopies (modules : List ModuleDescriptor) : List ModuleDescriptor :=
  (keepLast modules).mergeSort fun a b => a.id.le b.id
where
  /-- The descriptors after which no other of the same module comes. -/
  keepLast : List ModuleDescriptor → List ModuleDescriptor
    | [] => []
    | d :: rest => if rest.any (·.sameModule d) then keepLast rest else d :: keepLast rest

/-- The identities that occur again after their first occurrence, in order. -/
def repeatedIds (modules : List ModuleDescriptor) : List ModuleId := after [] modules
where
  /-- The identities that occur again when those in `seen` have occurred before. -/
  after (seen : List ModuleId) : List ModuleDescriptor → List ModuleId
    | [] => []
    | d :: rest =>
      if seen.contains d.id then d.id :: after seen rest else after (d.id :: seen) rest

end ModuleDescriptor

end MovePack
