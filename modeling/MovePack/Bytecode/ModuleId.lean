/-
# Names of modules

A module is known by the account it is published under and its name.
-/
import MovePack.Account.Address

namespace MovePack

/-- The identity of a module. -/
structure ModuleId where
  /-- The account the module is published under. -/
  address : Address
  /-- The name. -/
  name : Text
deriving DecidableEq

namespace ModuleId

/-- Modules in the order of their addresses, and under one address in the order of their
names. -/
def compare (a b : ModuleId) : Ordering :=
  (a.address.compare b.address).then (a.name.compare b.name)

/-- The first module does not come after the second one. -/
def le (a b : ModuleId) : Bool := (a.compare b).isLE

/-- The short address and the name, with two colons between them. -/
def toText (id : ModuleId) : Text := id.address.toShortText ++ "::" ++ id.name

end ModuleId

end MovePack
