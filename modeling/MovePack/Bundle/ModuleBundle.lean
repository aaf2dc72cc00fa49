/-
# Bundles

A bundle is a list of module binaries, in the order in which they can be published.  It is
serialized as a sequence of byte strings.
-/
import MovePack.Bundle.Order

namespace MovePack

/-- An ordered list of module binaries. -/
structure ModuleBundle where
  /-- The binaries. -/
  modules : List Bytes
deriving DecidableEq

namespace ModuleBundle

open Codec (Reader ReadFault Written WriteFault)

/-- The bundle of modules. -/
def ofDescriptors (modules : List ModuleDescriptor) : ModuleBundle :=
  ⟨modules.map ModuleDescriptor.code⟩

/-- Writes a bundle. -/
def write (bundle : ModuleBundle) : Written WriteFault :=
  Written.sequence Written.countedBytes bundle.modules

/-- Reads a bundle. -/
def reader : Reader ModuleBundle := return ⟨← Reader.sequence Reader.bytes⟩

/-- The serialized form of a bundle. -/
def encode (bundle : ModuleBundle) : Except WriteFault Bytes := bundle.write.toExcept

/-- The bundle of its serialized form. -/
def ofBytes (bytes : Bytes) : Except ReadFault ModuleBundle := reader.readAll bytes

end ModuleBundle

end MovePack
