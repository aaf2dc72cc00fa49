/-
# The text of a number

A finite number is shown by its shortest decimal.  Decimals between `10 ^ -4` and `10 ^ 16` are
shown positionally and have at least one digit after the point; the others are shown with one
digit before the point and a signed exponent of at least two digits.
-/
import MovePack.Number.Shortest

namespace MovePack

/-- The choices in the notation of numbers. -/
structure NumberFormat where
  /-- The smallest exponent of the first digit that is shown positionally. -/
  minPositional : Int
  /-- The smallest exponent of the first digit that no longer is. -/
  endPositional : Int
  /-- The least number of digits of an exponent. -/
  exponentWidth : Nat

/-- The format of all numbers in messages. -/
def NumberFormat.standard : NumberFormat := ⟨-4, 16, 2⟩

namespace Decimal

/-- The text of an exponent. -/
def exponentText (format : NumberFormat) (exponent : Int) : Text :=
  let digits := Text.ofNat exponent.natAbs
  Text.ofString (if exponent < 0 then "e-" else "e+")
    ++ List.replicate (format.exponentWidth - digits.length) (CodePoint.scalar '0') ++ digits

/-- The text of a decimal without zeros at the end of its digits. -/
def toText (format : NumberFormat) (d : Decimal) : Text :=
  let digits := Text.ofNat d.coefficient
  let zeros (count : Int) : Text := List.replicate count.toNat (CodePoint.scalar '0')
  let first : Int := d.exponent + digits.length - 1
  if d.coefficient = 0 then "0.0"
  else if format.minPositional ≤ first ∧ first < format.endPositional then
    if first < 0 then "0." ++ zeros (-1 - first) ++ digits
    else if 0 ≤ d.exponent then digits ++ zeros d.exponent ++ ".0"
    else digits.take (first.toNat + 1) ++ "." ++ digits.drop (first.toNat + 1)
  else
    digits.take 1 ++ (if digits.length = 1 then [] else CodePoint.scalar '.' :: digits.drop 1)
      ++ exponentText format first

end Decimal

/-- The text of a number. -/
def Binary64.toText : Binary64 → Text
  | .nan => "nan"
  | .infinity negative => if negative then "-inf" else "inf"
  | .finite negative significand exponent =>
    Text.ofString (if negative then "-" else "")
      ++ (Decimal.shortest significand exponent).toText NumberFormat.standard

end MovePack
