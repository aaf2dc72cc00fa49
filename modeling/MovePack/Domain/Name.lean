/-
# Domain names

A domain name is a sequence of labels with dots between them, and perhaps one at the end.  Every
label has a form in ASCII, in which names are looked up.
-/
import MovePack.Domain.Label

namespace MovePack.Domain

/-- Why a domain name is refused. -/
inductive NameFault where
  /-- There is nothing in the name. -/
  | empty
  /-- The name is too long. -/
  | tooLong
  /-- A label is refused. -/
  | label (fault : LabelFault)
deriving DecidableEq, Repr

/-- The message of a refused name. -/
def NameFault.message : NameFault → Text
  | .empty => "Empty domain"
  | .tooLong => "Domain too long"
  | .label fault => fault.message

/-- The dots that separate labels, in the widths and the styles of East Asian scripts too. -/
def isDot (c : CodePoint) : Bool :=
  c.toNat = 0x2E || c.toNat = 0x3002 || c.toNat = 0xFF0E || c.toNat = 0xFF61

/-- The parts of a text between dots. -/
def splitDots : Text → List Text
  | [] => [[]]
  | c :: rest =>
    if isDot c then [] :: splitDots rest
    else
      match splitDots rest with
      | part :: parts => (c :: part) :: parts
      | [] => [[c]]

/-- The largest number of characters of a name. -/
def maxNameCharacters : Nat := 253

/-- The labels of a name, and whether a dot follows the last one. -/
def labelsOf (name : Text) : Except NameFault (List Text × Bool) :=
  let parts := splitDots name
  if maxNameCharacters + 1 < name.length then .error .tooLong
  else if name.isEmpty then .error .empty
  else if parts.getLast? = some [] then .ok (parts.dropLast, true)
  else .ok (parts, false)

/-- The labels with dots between them. -/
def joinLabels (labels : List Text) (endsWithDot : Bool) : Text :=
  Text.join "." labels ++ if endsWithDot then "." else ""

/-- The name that a name in ASCII stands for. -/
def decodeName (name : Text) : Except NameFault Text := do
  let (labels, endsWithDot) ← labelsOf name
  let decoded ← (labels.mapM decodeLabel).mapError .label
  return joinLabels decoded endsWithDot

/-- The ASCII form of a name. -/
def encodeName (name : Text) : Except NameFault Text := do
  let (labels, endsWithDot) ← labelsOf name
  let encoded := joinLabels (← (labels.mapM encodeLabel).mapError .label) endsWithDot
  if maxNameCharacters + (if endsWithDot then 1 else 0) < encoded.length then throw .tooLong
  return encoded

end MovePack.Domain
