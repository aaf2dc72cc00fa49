/-
# Digits in a base

The digits of a number in a base denote it, and a row of digits without a leading zero is that of
the number it denotes.  A number has more digits than the exponent of every power of the base that
it reaches.
-/
import Mathlib.Data.List.TakeWhile
import Mathlib.Data.Nat.Digits.Lemmas
import MovePack.Bytes

namespace MovePack.Radix

variable {base : Nat}

lemma digits_eq_reverse (h : 1 < base) (n : Nat) : digits base n = (Nat.digits base n).reverse := by
  have hrev : digitsRev base n = Nat.digits base n := by
    fun_induction digitsRev base n with
    | case1 n hn => simp [show n = 0 by omega]
    | case2 n hn ih => rw [Nat.digits_def' h (by omega), ih]
  rw [digits, hrev]

lemma value_eq_ofDigits (base : Nat) (ds : List Nat) :
    value base ds = Nat.ofDigits base ds.reverse := by
  rw [Nat.ofDigits_eq_foldr, List.foldr_reverse, value]
  simp [mul_comm, add_comm]

lemma value_digits (h : 1 < base) (n : Nat) : value base (digits base n) = n := by
  rw [value_eq_ofDigits, digits_eq_reverse h, List.reverse_reverse, Nat.ofDigits_digits]

lemma digits_value (h : 1 < base) {ds : List Nat} (hlt : ∀ d ∈ ds, d < base)
    (hhead : ds.head? ≠ some 0) : digits base (value base ds) = ds := by
  have hlast : ∀ hne : ds.reverse ≠ [], ds.reverse.getLast hne ≠ 0 := by
    intro hne hzero
    rw [List.getLast_reverse] at hzero
    exact hhead ((List.head_eq_iff_head?_eq_some _).mp hzero)
  rw [value_eq_ofDigits, digits_eq_reverse h,
    Nat.digits_ofDigits base h _ (by simpa using hlt) hlast, List.reverse_reverse]

lemma lt_of_mem_digits (h : 1 < base) {n d : Nat} (hd : d ∈ digits base n) : d < base := by
  rw [digits_eq_reverse h, List.mem_reverse] at hd
  exact Nat.digits_lt_base h hd

lemma head?_digits_ne_zero (h : 1 < base) (n : Nat) : (digits base n).head? ≠ some 0 := by
  rw [digits_eq_reverse h, List.head?_reverse]
  intro hlast
  by_cases hn : n = 0
  · simp [hn] at hlast
  · have hne : Nat.digits base n ≠ [] := Nat.digits_ne_nil_iff_ne_zero.mpr hn
    rw [List.getLast?_eq_some_getLast hne, Option.some.injEq] at hlast
    exact Nat.getLast_digit_ne_zero base hn hlast

lemma lt_length_digits_iff (h : 1 < base) {k n : Nat} :
    k < (digits base n).length ↔ base ^ k ≤ n := by
  rw [digits_eq_reverse h, List.length_reverse, Nat.lt_digits_length_iff h]

lemma value_lt {ds : List Nat} (h : 1 < base) (hlt : ∀ d ∈ ds, d < base) :
    value base ds < base ^ ds.length := by
  rw [value_eq_ofDigits, ← List.length_reverse]
  exact Nat.ofDigits_lt_base_pow_length h (by simpa using hlt)

/-- Rows of as many digits that denote the same number are the same. -/
lemma value_inj {ds ds' : List Nat} (h : 1 < base) (hlt : ∀ d ∈ ds, d < base)
    (hlt' : ∀ d ∈ ds', d < base) (hlength : ds.length = ds'.length)
    (hvalue : value base ds = value base ds') : ds = ds' := by
  rw [value_eq_ofDigits, value_eq_ofDigits] at hvalue
  exact List.reverse_injective (Nat.ofDigits_inj_of_len_eq h (by simpa using hlength)
    (by simpa using hlt) (by simpa using hlt') hvalue)

lemma value_zeros_append (zeros : Nat) (ds : List Nat) :
    value base (List.replicate zeros 0 ++ ds) = value base ds := by
  induction zeros with
  | zero => rfl
  | succ zeros ih => simpa [value, List.replicate_succ] using ih

/-- Leading copies of one digit, and what follows them. -/
lemma eq_replicate_append_dropWhile {α : Type} [DecidableEq α] (a : α) (l : List α) :
    l = List.replicate (l.takeWhile (· = a)).length a ++ l.dropWhile (· = a) := by
  have hleading : l.takeWhile (· = a) = List.replicate (l.takeWhile (· = a)).length a :=
    List.eq_replicate_of_mem fun b hb => by simpa using List.mem_takeWhile_imp hb
  rw [← hleading, List.takeWhile_append_dropWhile]

end MovePack.Radix
