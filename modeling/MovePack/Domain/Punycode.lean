/-
# Punycode

A text is written in ASCII as its own ASCII characters, a hyphen, and digits in base 36 that say
where which other characters are inserted.  The insertions are in ascending order of the
characters.  Each is one number: how many possible insertions are passed over since the one before.
Numbers have their least significant digit first and end with a digit below a threshold, which
adapts to the numbers before.
-/
import MovePack.Text.CodePoint

namespace MovePack.Punycode

/-! ## Numbers -/

/-- The base of the digits. -/
def base : Nat := 36

/-- The lowest threshold. -/
def minThreshold : Nat := 1

/-- The highest threshold. -/
def maxThreshold : Nat := 26

/-- The bias of the first number. -/
def initialBias : Nat := 72

/-- The number of the first character outside ASCII. -/
def firstInserted : Nat := 0x80

/-- The value of a digit: letters of either case come before decimal digits. -/
def digit? : CodePoint → Option Nat
  | .scalar c =>
    if 'a' ≤ c ∧ c ≤ 'z' then some (c.toNat - 'a'.toNat)
    else if 'A' ≤ c ∧ c ≤ 'Z' then some (c.toNat - 'A'.toNat)
    else if '0' ≤ c ∧ c ≤ '9' then some (c.toNat - '0'.toNat + 26)
    else none
  | .surrogate _ => none

/-- The digit with the given value. -/
def digitOf (value : Nat) : CodePoint :=
  .scalar (Char.ofNat (if value < 26 then 'a'.toNat + value else '0'.toNat + (value - 26)))

/-- The threshold at the place that has `place` as the number of the base's multiples up to it. -/
def threshold (place bias : Nat) : Nat :=
  max minThreshold (min maxThreshold (base * place - bias))

/-- The threshold is positive. -/
theorem threshold_pos (place bias : Nat) : 1 ≤ threshold place bias :=
  Nat.le_max_left ..

/-- The threshold is lower than the base. -/
theorem threshold_lt_base (place bias : Nat) : threshold place bias < base := by
  simp only [threshold, minThreshold, maxThreshold, base]
  omega

/-- How often a number above 455 is divided by 35, and what is left. -/
def scaleDown (delta : Nat) : Nat × Nat :=
  if 455 < delta then let (times, left) := scaleDown (delta / 35); (times + 1, left)
  else (0, delta)
termination_by delta
decreasing_by exact Nat.div_lt_self (by omega) (by omega)

/-- The bias after a number, when the text has `length` characters. -/
def adapt (delta length : Nat) (isFirst : Bool) : Nat :=
  let damped := if isFirst then delta / 700 else delta / 2
  let (times, left) := scaleDown (damped + damped / length)
  base * times + 36 * left / (left + 38)

/-! ## Reading -/

/-- The number at the beginning of a text, and the text after it.  The digits up to `place` have
been read, and the next one counts `weight`. -/
def number? (bias : Nat) : (place weight : Nat) → Text → Option (Nat × Text)
  | _, _, [] => none
  | place, weight, c :: rest => do
    let digit ← digit? c
    let limit := threshold (place + 1) bias
    if digit < limit then return (digit * weight, rest)
    let (others, rest) ← number? bias (place + 1) (weight * (base - limit)) rest
    return (digit * weight + others, rest)

/-- What is known between two insertions. -/
structure Insertion where
  /-- The text with the characters inserted so far. -/
  text : Text
  /-- The number of the character that may be inserted next. -/
  character : Nat := firstInserted
  /-- The place from which on it may be inserted. -/
  place : Nat := 0
  /-- The bias of the next number. -/
  bias : Nat := initialBias
  /-- Nothing has been inserted. -/
  isFirst : Bool := true

/-- The state after passing over `delta` insertions and making the next one. -/
def Insertion.insert? (s : Insertion) (delta : Nat) : Option Insertion := do
  let length := s.text.length + 1
  let character := s.character + (s.place + delta) / length
  let place := (s.place + delta) % length
  let c ← CodePoint.ofNat? character
  return {
    text := s.text.take place ++ c :: s.text.drop place
    character
    place := place + 1
    bias := adapt delta length s.isFirst
    isFirst := false }

/-- The text after all insertions, of which there are fewer than `fuel`. -/
def Insertion.run? (s : Insertion) : (fuel : Nat) → Text → Option Text
  | 0, _ => none
  | _ + 1, [] => some s.text
  | fuel + 1, t => do
    let (delta, rest) ← number? s.bias 0 1 t
    (← s.insert? delta).run? fuel rest

/-- The text before the last hyphen, if there is one, and the text after it. -/
def splitLast (t : Text) : Text × Text :=
  let tail := (t.reverse.takeWhile (· ≠ .scalar '-')).reverse
  (t.take (t.length - tail.length - 1), tail)

/-- The text that is written in the given way. -/
def decode? (t : Text) : Option Text :=
  let (ascii, insertions) := splitLast t
  Insertion.run? { text := ascii } (insertions.length + 1) insertions

/-! ## Writing -/

/-- The digits of a number, when the digits up to `place` have been written. -/
def digitsOf (bias place n : Nat) : Text :=
  let limit := threshold (place + 1) bias
  if n < limit then [digitOf n]
  else
    digitOf (limit + (n - limit) % (base - limit)) ::
      digitsOf bias (place + 1) ((n - limit) / (base - limit))
termination_by n
decreasing_by
  have := threshold_pos (place + 1) bias
  exact Nat.lt_of_le_of_lt (Nat.div_le_self ..) (by omega)

/-- What is known while a text is written. -/
structure Delivery where
  /-- The digits so far. -/
  digits : Text := []
  /-- The number of insertions to be passed over. -/
  delta : Nat := 0
  /-- The bias of the next number. -/
  bias : Nat := initialBias
  /-- The number of characters delivered. -/
  delivered : Nat
  /-- Nothing has been inserted. -/
  isFirst : Bool := true

/-- The state after a look at a character of the text, when `character` is to be inserted. -/
def Delivery.visit (character : Nat) (s : Delivery) (c : CodePoint) : Delivery :=
  if c.toNat < character then { s with delta := s.delta + 1 }
  else if c.toNat = character then
    { digits := s.digits ++ digitsOf s.bias 0 s.delta
      delta := 0
      bias := adapt s.delta (s.delivered + 1) s.isFirst
      delivered := s.delivered + 1
      isFirst := false }
  else s

/-- The state after all insertions of the given characters, which are ascending; the insertions of
characters below `next` are done. -/
def Delivery.run (t : Text) (next : Nat) (s : Delivery) : List Nat → Delivery
  | [] => s
  | character :: rest =>
    let reached := { s with delta := s.delta + (character - next) * (s.delivered + 1) }
    let after := t.foldl (Delivery.visit character) reached
    Delivery.run t (character + 1) { after with delta := after.delta + 1 } rest

/-- The characters to be inserted, ascending and each of them once. -/
def insertedCharacters (t : Text) : List Nat :=
  ((t.filter fun c => !c.isAscii).map CodePoint.toNat).eraseDups.mergeSort

/-- The text written in ASCII. -/
def encode (t : Text) : Text :=
  let ascii := t.filter CodePoint.isAscii
  let delivery := Delivery.run t firstInserted { delivered := ascii.length } (insertedCharacters t)
  (if ascii.isEmpty then ascii else ascii ++ [.scalar '-']) ++ delivery.digits

end MovePack.Punycode
