/-
# The shortest decimal notation of a number

A finite number is written with the fewest significant decimal digits from which it can be read
back; of several such decimals the nearest one is taken, and of two equally near ones the one
with the even last digit.  Seventeen digits always suffice.  Zero has the single digit 0.
-/
import MovePack.Number.Binary64

namespace MovePack

/-- A decimal number: `coefficient * 10 ^ exponent`. -/
structure Decimal where
  /-- The digits, as a number. -/
  coefficient : Nat
  /-- The power of ten. -/
  exponent : Int
deriving DecidableEq, Repr

namespace Decimal

/-- The decimal without zeros at the end of its digits; there are at most `fuel` of them. -/
def dropZeros (fuel : Nat) (d : Decimal) : Decimal :=
  match fuel with
  | 0 => d
  | fuel + 1 =>
    if d.coefficient ≠ 0 ∧ d.coefficient % 10 = 0 then
      dropZeros fuel ⟨d.coefficient / 10, d.exponent + 1⟩
    else d

/-- Numerator and denominator of the quotient divided by a power of ten. -/
def scaleDown (num den : Nat) (exponent : Int) : Nat × Nat :=
  if 0 ≤ exponent then (num, den * Nat.pow 10 exponent.toNat)
  else (num * Nat.pow 10 (-exponent).toNat, den)

/-- The exponent `k` with `10 ^ k ≤ num / den < 10 ^ (k + 1)`. -/
def floorLog10 (num den : Nat) : Int :=
  let guess : Int := (Binary64.decimalLength num : Int) - Binary64.decimalLength den
  let (n, d) := scaleDown num den guess
  if n < d then guess - 1 else guess

/-- The decimals with the given number of significant digits next to a quotient from which a
number can be read back, the better one first. -/
def neighbours (reads : Decimal → Bool) (num den digits : Nat) : List Decimal :=
  let exponent := floorLog10 num den - (digits : Int) + 1
  let (n, d) := scaleDown num den exponent
  let low := n / d
  let remainder := n % d
  let lowFirst := 2 * remainder < d || (2 * remainder = d && low % 2 = 0)
  let candidates := if lowFirst then [low, low + 1] else [low + 1, low]
  (candidates.map fun c => (⟨c, exponent⟩ : Decimal)).filter reads

/-- The first decimal found with `digits` significant digits or more, when `fuel` further numbers
of digits may be tried. -/
def search (reads : Decimal → Bool) (num den : Nat) : (fuel digits : Nat) → Decimal
  | 0, _ => ⟨num, 0⟩
  | fuel + 1, digits =>
    match neighbours reads num den digits with
    | d :: _ => d
    | [] => search reads num den fuel (digits + 1)

/-- The largest number of significant digits that is needed. -/
def maxDigits : Nat := 17

/-- The shortest decimal of the absolute value of a finite number. -/
def shortest (significand : Nat) (exponent : Int) : Decimal :=
  if significand = 0 then ⟨0, 0⟩
  else
    let (num, den) := Binary64.quotientOf significand exponent
    let reads (d : Decimal) : Bool :=
      Binary64.ofDecimal false d.coefficient d.exponent = .finite false significand exponent
    dropZeros maxDigits (search reads num den maxDigits 1)

end Decimal

end MovePack
