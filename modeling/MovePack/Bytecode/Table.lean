/-
# Tables of a binary

The content of a compiled module or script is divided into tables of known kinds.  A directory at
the beginning of the binary gives the place and the length of each.
-/
import MovePack.Text.Quoted

namespace MovePack.Bytecode

/-- The marking bytes at the beginning of every binary. -/
def magic : Bytes := [0xA1, 0x1C, 0xEB, 0x0B]

/-- A kind of table. -/
inductive TableKind where
  /-- The modules that are referred to. -/
  | moduleHandles
  /-- The structs that are referred to. -/
  | structHandles
  /-- The functions that are referred to. -/
  | functionHandles
  /-- The instances of generic functions. -/
  | functionInstances
  /-- The signatures. -/
  | signatures
  /-- The constants. -/
  | constants
  /-- The names. -/
  | identifiers
  /-- The account addresses. -/
  | addresses
  /-- The structs that are defined. -/
  | structDefinitions
  /-- The instances of generic structs. -/
  | structInstances
  /-- The functions that are defined. -/
  | functionDefinitions
  /-- The fields that are referred to. -/
  | fieldHandles
  /-- The fields of instances of generic structs. -/
  | fieldInstances
  /-- The modules declared friends. -/
  | friends
  /-- Further information. -/
  | metadata
deriving DecidableEq, Repr

namespace TableKind

/-- All kinds. -/
def all : List TableKind :=
  [.moduleHandles, .structHandles, .functionHandles, .functionInstances, .signatures, .constants,
   .identifiers, .addresses, .structDefinitions, .structInstances, .functionDefinitions,
   .fieldHandles, .fieldInstances, .friends, .metadata]

/-- The number of a kind in the directory. -/
def number : TableKind → Nat
  | .moduleHandles => 0x1
  | .structHandles => 0x2
  | .functionHandles => 0x3
  | .functionInstances => 0x4
  | .signatures => 0x5
  | .constants => 0x6
  | .identifiers => 0x7
  | .addresses => 0x8
  | .structDefinitions => 0xA
  | .structInstances => 0xB
  | .functionDefinitions => 0xC
  | .fieldHandles => 0xD
  | .fieldInstances => 0xE
  | .friends => 0xF
  | .metadata => 0x10

/-- The kind of a number. -/
def ofNumber? (n : Nat) : Option TableKind := all.find? fun kind => kind.number = n

/-- Only modules may carry a table of the kind. -/
def isModuleOnly : TableKind → Bool
  | .structDefinitions | .structInstances | .functionDefinitions | .fieldHandles
  | .fieldInstances | .friends => true
  | _ => false

end TableKind

/-- An entry of the directory. -/
structure Table where
  /-- The kind. -/
  kind : TableKind
  /-- The number of bytes of content before the table. -/
  offset : Nat
  /-- The number of bytes of the table. -/
  length : Nat
deriving DecidableEq, Repr

/-- The number of a kind of table in messages. -/
def kindText (number : Nat) : Text := "0x" ++ hexNumeral 1 number

end MovePack.Bytecode
