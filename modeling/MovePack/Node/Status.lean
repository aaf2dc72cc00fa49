/-
# Status codes of the virtual machine

A node reports how the execution of a call ended by a number.  Some numbers have names, and a
node may give the name instead; other numbers stay what they are.
-/
import MovePack.Text.CodePoint

namespace MovePack

/-- A status code. -/
structure StatusCode where
  /-- The number of the code. -/
  number : Int
deriving DecidableEq, Repr

namespace StatusCode

/-- The call was executed. -/
def executed : StatusCode := ⟨4001⟩

/-- The codes with names. -/
def named : List (String × StatusCode) :=
  [("EXECUTED", executed), ("OUT_OF_GAS", ⟨4002⟩), ("RESOURCE_DOES_NOT_EXIST", ⟨4003⟩),
   ("RESOURCE_ALREADY_EXISTS", ⟨4004⟩), ("ABORTED", ⟨4016⟩), ("ARITHMETIC_ERROR", ⟨4017⟩),
   ("UNKNOWN_STATUS", ⟨18446744073709551615⟩)]

/-- The code with the given name. -/
def ofName? (name : Text) : Option StatusCode :=
  (named.find? fun entry => Text.ofString entry.1 = name).map Prod.snd

/-- The text of a code: its name, or its number if it has none. -/
def toText (code : StatusCode) : Text :=
  match named.find? fun entry => entry.2 = code with
  | some (name, _) => name
  | none => "STATUS_CODE(" ++ Text.ofInt code.number ++ ")"

end StatusCode

end MovePack
