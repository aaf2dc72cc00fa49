/-
# Commands

What can be asked for on a command line: a bundle of the modules of a package, a transaction for a
script, the hash that identifies a call, and what a node knows.  An option may be given without the
word or the number that it needs; a command has nothing in the place of such a word.
-/
import MovePack.Options.Spec

namespace MovePack

/-- What a node is asked for, with files still to be read. -/
inductive NodeRequest where
  /-- The gas for publishing a module. -/
  | publishModule (account? path? : Option Text)
  /-- The gas for publishing a bundle. -/
  | publishBundle (account? path? : Option Text)
  /-- The gas for executing a script transaction, on behalf of an account that is willing to spend
  the given amount, or of nobody. -/
  | executeScript (path? : Option Text) (payer? : Option (Option Text × Option Nat))
  /-- The weight of an amount of gas. -/
  | gasToWeight (gas? : Option Nat)
  /-- The interface of a module. -/
  | moduleInterface (address? name? : Option Text)
deriving Repr

/-- The address of the node that is asked. -/
inductive Destination where
  /-- The usual one. -/
  | usual
  /-- The given one. -/
  | given (url? : Option Text)
deriving Repr

/-- A command. -/
inductive Command where
  /-- Bundle the modules of the package in a directory, except those with the given names, and
  build the package before if asked to. -/
  | bundle (directory? name? : Option Text) (excluded : List Text) (builds : Bool)
  /-- Create the transaction of a compiled script with type arguments and arguments. -/
  | createTransaction (script? directory? : Option Text) (types args : List Text)
  /-- Show the hash of the transaction in a file. -/
  | callHash (path? : Option Text)
  /-- Ask the node at an address. -/
  | ask (destination : Destination) (request : NodeRequest)
deriving Repr

/-- The paths of what a request reads. -/
def NodeRequest.paths : NodeRequest → List Text
  | .publishModule _ path? => path?.toList
  | .publishBundle _ path? => path?.toList
  | .executeScript path? _ => path?.toList
  | .gasToWeight _ => []
  | .moduleInterface .. => []

/-- The paths of what a command reads: files, and the directories of packages. -/
def Command.paths : Command → List Text
  | .bundle directory? .. => directory?.toList
  | .createTransaction script? directory? .. => script?.toList ++ directory?.toList
  | .callHash path? => path?.toList
  | .ask _ request => request.paths

/-- A command and how much of the log is shown with it. -/
structure Invocation where
  /-- The command. -/
  command : Command
  /-- 0 to show warnings only, 1 to show the steps of the work, more to show details. -/
  verbosity : Nat
deriving Repr

end MovePack
