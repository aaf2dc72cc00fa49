/-
# Binary floating-point numbers

The numbers of the 64-bit binary format: infinities, a value that is no number, and the finite
numbers, each a significand of at most 53 bits times a power of two.  A quotient of natural
numbers is rounded to the nearest of them, and a quotient in the middle between two to the one
with the even significand.
-/
import MovePack.Text.CodePoint

namespace MovePack

/-- A number of the 64-bit binary format.  A finite number has one form: its significand has 53
bits, or fewer if the exponent is the smallest one. -/
inductive Binary64 where
  /-- The value that is no number. -/
  | nan
  /-- An infinity. -/
  | infinity (negative : Bool)
  /-- The number `significand * 2 ^ exponent`, or its opposite. -/
  | finite (negative : Bool) (significand : Nat) (exponent : Int)
deriving DecidableEq, Repr

namespace Binary64

/-- The smallest exponent. -/
def minExponent : Int := -1074

/-- The largest exponent. -/
def maxExponent : Int := 971

/-- The number of bits of a significand. -/
def precision : Nat := 53

/-- The quotient rounded to the nearest natural number, a half to the even one. -/
def roundQuotient (num den : Nat) : Nat :=
  let quotient := num / den
  let remainder := num % den
  if 2 * remainder < den then quotient
  else if den < 2 * remainder then quotient + 1
  else quotient + quotient % 2

/-- Numerator and denominator of the quotient divided by a power of two. -/
def scaleDown (num den : Nat) (exponent : Int) : Nat × Nat :=
  if 0 ≤ exponent then (num, den * Nat.pow 2 exponent.toNat)
  else (num * Nat.pow 2 (-exponent).toNat, den)

/-- The exponent `k` with `2 ^ k ≤ num / den < 2 ^ (k + 1)`. -/
def floorLog2 (num den : Nat) : Int :=
  let guess : Int := (Nat.log2 num : Int) - Nat.log2 den
  let (n, d) := scaleDown num den guess
  if n < d then guess - 1 else guess

/-- The number nearest to a quotient with a positive denominator. -/
def ofQuotient (negative : Bool) (num den : Nat) : Binary64 :=
  if num = 0 then .finite negative 0 minExponent
  else
    let exponent := max minExponent (floorLog2 num den - (precision - 1))
    let (n, d) := scaleDown num den exponent
    let significand := roundQuotient n d
    let (significand, exponent) :=
      if significand = Nat.pow 2 precision then (Nat.pow 2 (precision - 1), exponent + 1)
      else (significand, exponent)
    if maxExponent < exponent then .infinity negative else .finite negative significand exponent

/-- The number of decimal digits of a natural number. -/
def decimalLength (n : Nat) : Nat := (toString n).length

/-- The number nearest to `coefficient * 10 ^ exponent`, or to its opposite.  Beyond the bounds
that the first test puts on the exponent, the answer is infinity or zero in any case. -/
def ofDecimal (negative : Bool) (coefficient : Nat) (exponent : Int) : Binary64 :=
  let magnitude := exponent + decimalLength coefficient
  if coefficient = 0 ∨ magnitude < -400 then .finite negative 0 minExponent
  else if 400 < magnitude then .infinity negative
  else if 0 ≤ exponent then ofQuotient negative (coefficient * Nat.pow 10 exponent.toNat) 1
  else ofQuotient negative coefficient (Nat.pow 10 (-exponent).toNat)

/-- Numerator and denominator of the absolute value of a finite number. -/
def quotientOf (significand : Nat) (exponent : Int) : Nat × Nat :=
  if 0 ≤ exponent then (significand * Nat.pow 2 exponent.toNat, 1)
  else (significand, Nat.pow 2 (-exponent).toNat)

/-- The number is finite and greater than zero. -/
def isPositive : Binary64 → Bool
  | .finite false significand _ => significand != 0
  | _ => false

/-- The numbers are equal as numbers: both zeros are, and the value that is no number is equal to
none. -/
def numericallyEqual : Binary64 → Binary64 → Bool
  | .nan, _ => false
  | _, .nan => false
  | .finite n s e, .finite n' s' e' => (s = 0 && s' = 0) || (n = n' && s = s' && e = e')
  | a, b => a = b

/-- The finite number is the given integer. -/
def isInt (x : Binary64) (i : Int) : Bool :=
  match x with
  | .finite negative significand exponent =>
    let (num, den) := quotientOf significand exponent
    num = i.natAbs * den && (i = 0 || negative = (i < 0 : Bool))
  | _ => false

end Binary64

end MovePack
