/-
# The tables of a TOML document

A document is built statement by statement.  Besides its members a table keeps how it came to be,
because the rules on what may still be added depend on it: a table is declared by one header only,
and keys with dots add to tables that keys with dots have made.
-/
import MovePack.Toml.Value

namespace MovePack.Toml

/-- What a document has too much of. -/
inductive Excess where
  /-- An integer has too many decimal digits. -/
  | digits (count : Nat)
  /-- A value lies in too many arrays and inline tables. -/
  | nesting
  /-- A key has too many parts. -/
  | keyParts
deriving DecidableEq, Repr

/-- The largest number of decimal digits of an integer. -/
def maxDigits : Nat := 4300

/-- The largest number of arrays and inline tables around a value. -/
def maxNesting : Nat := 400

/-- The largest number of parts of a key. -/
def maxKeyParts : Nat := 1000

/-- The message of an excess. -/
def Excess.message : Excess → Text
  | .digits count =>
    "Exceeds the limit (" ++ Text.ofNat maxDigits
      ++ " digits) for integer string conversion: value has " ++ Text.ofNat count
      ++ " digits; use sys.set_int_max_str_digits() to increase the limit"
  | .nesting =>
    "TOML inline arrays/tables are nested more than the allowed " ++ Text.ofNat maxNesting
      ++ " levels"
  | .keyParts =>
    "TOML key has more than the allowed " ++ Text.ofNat maxKeyParts ++ " parts"

/-- Why a text is no document. -/
inductive Fault where
  /-- The text breaks the rules of the format. -/
  | malformed
  /-- The text keeps the rules as far as it is read, but has too much of something. -/
  | tooMuch (excess : Excess)
deriving DecidableEq, Repr

/-- The words for a fault. -/
def Fault.message : Fault → Text
  | .malformed => "<toml error>"
  | .tooMuch excess => excess.message

/-- How a table came to be. -/
inductive Origin where
  /-- It lies on the way to the table of a header. -/
  | implied
  /-- It lies on the way to the value of a key with dots. -/
  | dotted
  /-- It has a header of its own. -/
  | declared
deriving DecidableEq, Repr

/-- What a key stands for in a document under construction. -/
inductive Node where
  /-- A value, to which nothing can be added. -/
  | value (v : Value)
  /-- A table. -/
  | table (origin : Origin) (members : List (Text × Node))
  /-- An array of tables: those that are finished, and the members of the last one. -/
  | tables (finished : List (List (Text × Node))) (last : List (Text × Node))

/-- The members of a table under construction, in the order in which their keys first occur. -/
abbrev Members := List (Text × Node)

namespace Members

/-- The members with another node for a key; a new key comes last. -/
def alter (key : Text) (change : Option Node → Except Fault Node) : Members → Except Fault Members
  | [] => do return [(key, ← change none)]
  | (k, node) :: rest => do
    if k = key then return (k, ← change (some node)) :: rest
    else return (k, node) :: (← alter key change rest)

/-- Changes the table at the end of a path of keys.  The way leads into the last table of an array
of tables, and missing tables are made. -/
def within : (path : List Text) → (Members → Except Fault Members) → Members →
    Except Fault Members
  | [], change, members => change members
  | key :: path, change, members =>
    members.alter key fun
      | none => (within path change []).map (.table .implied)
      | some (.table origin inner) => (within path change inner).map (.table origin)
      | some (.tables finished last) => (within path change last).map (.tables finished)
      | some (.value _) => .error .malformed

/-- Declares the table of a header. -/
def declare (path : List Text) (key : Text) (members : Members) : Except Fault Members :=
  within path (fun inner => inner.alter key fun
    | none => .ok (.table .declared [])
    | some (.table .implied inner) => .ok (.table .declared inner)
    | some _ => .error .malformed) members

/-- Adds a table to the array of tables of a header. -/
def append (path : List Text) (key : Text) (members : Members) : Except Fault Members :=
  within path (fun inner => inner.alter key fun
    | none => .ok (.tables [] [])
    | some (.tables finished last) => .ok (.tables (finished ++ [last]) [])
    | some _ => .error .malformed) members

/-- Gives a value to a key with dots before its last part. -/
def assign : (path : List Text) → (key : Text) → Value → Members → Except Fault Members
  | [], key, v, members =>
    members.alter key fun
      | none => .ok (.value v)
      | some _ => .error .malformed
  | part :: path, key, v, members =>
    members.alter part fun
      | none => (assign path key v []).map (.table .dotted)
      | some (.table .declared _) => .error .malformed
      | some (.table _ inner) => (assign path key v inner).map (.table .dotted)
      | some _ => .error .malformed

end Members

mutual

/-- The value of a node. -/
def Node.toValue : Node → Value
  | .value v => v
  | .table _ members => .table (membersToValues members)
  | .tables finished last =>
    .array (tablesToValues finished ++ [.table (membersToValues last)])

/-- The values of members. -/
def membersToValues : List (Text × Node) → List (Text × Value)
  | [] => []
  | (key, node) :: rest => (key, node.toValue) :: membersToValues rest

/-- The values of tables. -/
def tablesToValues : List (List (Text × Node)) → List Value
  | [] => []
  | members :: rest => .table (membersToValues members) :: tablesToValues rest

end

end MovePack.Toml
