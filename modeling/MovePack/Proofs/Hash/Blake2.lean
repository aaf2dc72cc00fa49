/-
# The size of a digest

A chaining value has eight words after every block, so a digest has as many bytes as eight words
hold, whatever the input.
-/
import MovePack.Hash.Blake2
import MovePack.Proofs.Bytes

namespace MovePack.Blake2

variable {w : Nat}

lemma length_compress (variant : Variant w) (h : List (BitVec w)) (message : Array (BitVec w))
    (count : Nat) (last : Bool) : (compress variant h message count last).length = 8 := by
  simp [compress]

lemma length_absorb (variant : Variant w) (h : List (BitVec w)) (count : Nat) (input : Bytes) :
    (absorb variant h count input).length = 8 := by
  fun_induction absorb variant h count input with
  | case1 => exact length_compress ..
  | case2 _ _ _ _ _ ih => exact ih

/-- A digest has the bytes of eight words. -/
theorem length_digest (variant : Variant w) (input : Bytes) :
    (digest variant input).length = 8 * (w / 8) := by
  simp [digest, List.length_flatMap, length_absorb]
  omega

lemma length_hash512 (input : Bytes) : (hash512 input).length = 64 := length_digest ..

end MovePack.Blake2
