/-
# JSON values

The values a JSON text can denote.  Integers are kept apart from floating-point numbers, and the
members of an object keep their order.
-/
import MovePack.Number.Binary64

namespace MovePack

/-- A JSON value. -/
inductive Json where
  /-- The value `null`. -/
  | null
  /-- A truth value. -/
  | bool (b : Bool)
  /-- A number written without fraction and exponent. -/
  | int (i : Int)
  /-- A number written with a fraction or an exponent. -/
  | float (x : Binary64)
  /-- A string. -/
  | str (t : Text)
  /-- An array. -/
  | arr (elements : List Json)
  /-- An object, as its names and their values. -/
  | obj (members : List (Text × Json))
deriving Repr, Inhabited

namespace Json

/-- The members with one more: a new name comes last, and a known one keeps its place and gets
the new value. -/
def insertMember (name : Text) (value : Json) : List (Text × Json) → List (Text × Json)
  | [] => [(name, value)]
  | (known, old) :: rest =>
    if known = name then (known, value) :: rest else (known, old) :: insertMember name value rest

/-- The value of a name among members. -/
def member? (name : String) (members : List (Text × Json)) : Option Json :=
  (members.find? fun m => m.1 = Text.ofString name).map Prod.snd

/-- The value as a number: truth values count as 0 and 1. -/
def number? : Json → Option (Int ⊕ Binary64)
  | .bool b => some (.inl (if b then 1 else 0))
  | .int i => some (.inl i)
  | .float x => some (.inr x)
  | _ => none

/-- Two single values are equal: both are null, or equal strings, or equal as numbers. -/
def scalarsEqual (a b : Json) : Bool :=
  match a.number?, b.number? with
  | some (.inl i), some (.inl j) => i = j
  | some (.inl i), some (.inr x) => x.isInt i
  | some (.inr x), some (.inl i) => x.isInt i
  | some (.inr x), some (.inr y) => x.numericallyEqual y
  | none, none =>
    match a, b with
    | .null, .null => true
    | .str s, .str t => s = t
    | _, _ => false
  | _, _ => false

end Json

end MovePack
