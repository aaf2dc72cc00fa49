/-
# Byte strings

A byte string is a list of bytes.  Numbers are laid out in bytes in two ways: in a fixed width
with the least significant byte first, as the canonical serialization does, and with the most
significant digit first and no leading zero, as numerals are.
-/

namespace MovePack

/-- A byte string. -/
abbrev Bytes := List UInt8

namespace Radix

/-- The digits of a positive number in a base, the least significant first; none for zero. -/
def digitsRev (base n : Nat) : List Nat :=
  if _h : base < 2 ∨ n = 0 then [] else n % base :: digitsRev base (n / base)
termination_by n
decreasing_by exact Nat.div_lt_self (by omega) (by omega)

/-- The digits of a positive number in a base, the most significant first; none for zero. -/
def digits (base n : Nat) : List Nat := (digitsRev base n).reverse

/-- The number denoted by digits in a base, the most significant first. -/
def value (base : Nat) (digits : List Nat) : Nat :=
  digits.foldl (fun n digit => n * base + digit) 0

end Radix

namespace Bytes

/-- The `width` low-order bytes of a number, the least significant first. -/
def littleEndian : (width : Nat) → Nat → Bytes
  | 0, _ => []
  | width + 1, n => UInt8.ofNat (n % 256) :: littleEndian width (n / 256)

/-- The number whose bytes are given, the least significant first. -/
def ofLittleEndian : Bytes → Nat
  | [] => 0
  | b :: rest => b.toNat + 256 * ofLittleEndian rest

/-- Byte strings in the order of their first difference, a beginning before what extends it. -/
def compare : Bytes → Bytes → Ordering
  | [], [] => .eq
  | [], _ :: _ => .lt
  | _ :: _, [] => .gt
  | a :: s, b :: t => (Ord.compare a.toNat b.toNat).then (compare s t)

end Bytes

end MovePack
