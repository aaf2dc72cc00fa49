/-
# Numerals

How integers and floating-point numbers are read from options and settings.  White space at both
ends is dropped.  A sign may come first.  Digits of all scripts are accepted, and single
underscores may stand between two of them.
-/
import MovePack.Bytes
import MovePack.Number.Binary64
import MovePack.Text.Blank
import MovePack.Text.DecimalDigit

namespace MovePack.Numeral

/-- The largest number of digits of an integer. -/
def maxDigits : Nat := 4300

/-- The text without an underscore at its beginning, if a digit follows that. -/
def dropSeparator : Text → Text
  | .scalar '_' :: c :: rest => if c.decimalDigit?.isSome then c :: rest else .scalar '_' :: c :: rest
  | t => t

theorem length_dropSeparator_le (t : Text) : (dropSeparator t).length ≤ t.length := by
  unfold dropSeparator
  split
  · split <;> simp
  · exact Nat.le_refl _

/-- The values of the digits at the beginning, and the text after them. -/
def scanDigits : Text → List Nat × Text
  | [] => ([], [])
  | c :: rest =>
    match c.decimalDigit? with
    | none => ([], c :: rest)
    | some digit =>
      let (digits, tail) := scanDigits (dropSeparator rest)
      (digit :: digits, tail)
termination_by t => t.length
decreasing_by exact Nat.lt_succ_of_le (length_dropSeparator_le rest)

/-- Whether a minus sign stands at the beginning, and the text after the sign, if there is one. -/
def scanSign : Text → Bool × Text
  | .scalar '-' :: rest => (true, rest)
  | .scalar '+' :: rest => (false, rest)
  | t => (false, t)

/-- The integer that a text denotes. -/
def integer? (t : Text) : Option Int :=
  let (negative, body) := scanSign (t.trimWhile CodePoint.isWhiteSpace)
  match scanDigits body with
  | (digits, []) =>
    if digits.length = 0 ∨ maxDigits < digits.length then none
    else
      let magnitude := Radix.value 10 digits
      some (if negative then -magnitude else magnitude)
  | _ => none

/-- The exponent at the end of a numeral: nothing, or a mark and an integer. -/
def exponent? : Text → Option Int
  | [] => some 0
  | mark :: rest =>
    if mark ≠ .scalar 'e' ∧ mark ≠ .scalar 'E' then none
    else
      let (negative, body) := scanSign rest
      match scanDigits body with
      | ([], _) => none
      | (digits, []) =>
        let magnitude := Radix.value 10 digits
        some (if negative then -magnitude else magnitude)
      | _ => none

/-- The digits after a decimal point at the beginning, and the text after them. -/
def scanFraction : Text → List Nat × Text
  | .scalar '.' :: rest => scanDigits rest
  | t => ([], t)

/-- The text with capital ASCII letters made small. -/
def lowerAscii (t : Text) : Text :=
  t.map fun
    | .scalar c => .scalar c.toLower
    | c => c

/-- The number that a text without sign denotes: a decimal, or the name of an infinity or of the
value that is no number. -/
def unsigned? (negative : Bool) (t : Text) : Option Binary64 :=
  let name := lowerAscii t
  if name = Text.ofString "inf" ∨ name = Text.ofString "infinity" then some (.infinity negative)
  else if name = Text.ofString "nan" then some .nan
  else
    let (whole, rest) := scanDigits t
    let (fraction, rest) := scanFraction rest
    if whole.length + fraction.length = 0 then none
    else (exponent? rest).map fun exponent =>
      Binary64.ofDecimal negative (Radix.value 10 (whole ++ fraction))
        (exponent - fraction.length)

/-- The floating-point number that a text denotes. -/
def number? (t : Text) : Option Binary64 :=
  let (negative, body) := scanSign (t.trimWhile CodePoint.isWhiteSpace)
  unsigned? negative body

end MovePack.Numeral
