/-
# Numbers in a fixed width

A number laid out with the least significant byte first is read back when the width holds it, and
every byte string of the width is the layout of what is read from it.
-/
import Mathlib.Data.List.Basic
import Mathlib.Tactic.Ring
import MovePack.Bytes

namespace MovePack.Bytes

@[simp] lemma length_littleEndian (width n : Nat) : (littleEndian width n).length = width := by
  induction width generalizing n with
  | zero => rfl
  | succ width ih => simp [littleEndian, ih]

lemma ofLittleEndian_lt (s : Bytes) : ofLittleEndian s < 2 ^ (8 * s.length) := by
  induction s with
  | nil => simp [ofLittleEndian]
  | cons b s ih =>
    have hb := b.toNat_lt
    have hpow : 2 ^ (8 * (s.length + 1)) = 256 * 2 ^ (8 * s.length) := by ring
    rw [ofLittleEndian, List.length_cons, hpow]
    omega

lemma ofLittleEndian_littleEndian {width n : Nat} (h : n < 2 ^ (8 * width)) :
    ofLittleEndian (littleEndian width n) = n := by
  induction width generalizing n with
  | zero => simp_all [ofLittleEndian, littleEndian]
  | succ width ih =>
    have hpow : 2 ^ (8 * (width + 1)) = 256 * 2 ^ (8 * width) := by ring
    have hhigh : n / 256 < 2 ^ (8 * width) := Nat.div_lt_of_lt_mul (by rwa [← hpow])
    have hlow : (UInt8.ofNat (n % 256)).toNat = n % 256 := by simp
    rw [littleEndian, ofLittleEndian, ih hhigh, hlow]
    omega

lemma littleEndian_ofLittleEndian (s : Bytes) : littleEndian s.length (ofLittleEndian s) = s := by
  induction s with
  | nil => rfl
  | cons b s ih =>
    have hb := b.toNat_lt
    have hlow : (b.toNat + 256 * ofLittleEndian s) % 256 = b.toNat := by omega
    have hhigh : (b.toNat + 256 * ofLittleEndian s) / 256 = ofLittleEndian s := by omega
    rw [List.length_cons, ofLittleEndian, littleEndian, hlow, hhigh, ih, UInt8.ofNat_toNat]

end MovePack.Bytes
