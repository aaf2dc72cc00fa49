/-
# IP addresses

An address of version 4 has four decimal numbers between dots.  One of version 6 has eight
hexadecimal numbers between colons; one run of zeros among them may be left out, which leaves two
colons, and the last two numbers may have the form of version 4.  A zone may follow it.
-/
import MovePack.Text.CodePoint

namespace MovePack.IpAddress

/-! ## Version 4 -/

/-- The value of a decimal number without needless zeros. -/
def octet? (t : Text) : Option Nat :=
  match t.mapM CodePoint.asciiDigit? with
  | none | some [] => none
  | some [d] => some d
  | some (0 :: _) => none
  | some digits =>
    let n := digits.foldl (fun n d => 10 * n + d) 0
    if n ≤ 255 then some n else none

/-- The text is an address of version 4. -/
def isVersion4 (t : Text) : Bool :=
  let parts := Text.splitAll '.' t
  parts.length = 4 && parts.all fun part => (octet? part).isSome

/-- The text looks like an address of version 4: four runs of decimal digits with dots between
them.  The numbers may be too large or have needless zeros. -/
def resemblesVersion4 (t : Text) : Bool :=
  let parts := Text.splitAll '.' t
  parts.length = 4 && parts.all fun part =>
    !part.isEmpty && part.all fun c => c.asciiDigit?.isSome

/-! ## Version 6 -/

/-- One to four hexadecimal digits. -/
def isGroup (t : Text) : Bool :=
  !t.isEmpty && t.length ≤ 4 && t.all fun c => c.hexDigit?.isSome

/-- The parts with the last one, if it is an address of version 4, as two groups. -/
def expandLast (parts : List Text) : List Text :=
  match parts.getLast? with
  | some last => if isVersion4 last then parts.dropLast ++ List.replicate 2 (Text.ofString "0") else parts
  | none => parts

/-- The groups at one end: a part that is empty because the zeros begin or end there is no group. -/
def groupsAtEnd (parts : List Text) : List Text := if parts = [[]] then [] else parts

/-- The parts between colons make an address of version 6. -/
def areGroups (parts : List Text) : Bool :=
  let inner := parts.tail.dropLast
  match inner.findIdx? List.isEmpty with
  | none => parts.length = 8 && parts.all isGroup
  | some index =>
    let before := groupsAtEnd (parts.take (index + 1))
    let after := groupsAtEnd (parts.drop (index + 2))
    before.length + after.length ≤ 7 && before.all isGroup && after.all isGroup

/-- The text is an address of version 6. -/
def isVersion6 (t : Text) : Bool :=
  let parts := Text.splitAll ':' t
  3 ≤ parts.length && areGroups (expandLast parts)

/-- The text is an address of version 6, and perhaps a percent sign and a zone. -/
def isZonedVersion6 (t : Text) : Bool :=
  match t.splitFirst? '%' with
  | none => isVersion6 t
  | some (address, zone) =>
    isVersion6 address && !zone.isEmpty && !zone.contains (.scalar '%') && !t.contains (.scalar '/')

end MovePack.IpAddress
