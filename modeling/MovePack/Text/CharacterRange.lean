/-
# Ranges of code points

A property of characters is kept as an ascending list of closed ranges of code points.  The
lookup stops at the first range that ends at or after the code point asked for.
-/
import MovePack.Text.CodePoint

namespace MovePack.CharacterRange

/-- The code point lies in one of the ranges, which are ascending and apart. -/
def contains (n : Nat) : List (Nat × Nat) → Bool
  | [] => false
  | (first, last) :: rest => if n ≤ last then first ≤ n else contains n rest

end MovePack.CharacterRange
