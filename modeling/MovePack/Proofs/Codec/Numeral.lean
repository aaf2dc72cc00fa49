/-
# Numerals

The bytes of a variable-length integer are a numeral with digits of seven bits, the lowest first.
A number has one shortest numeral, which is the one that is written, and longer ones that are
padded with zeros at the high end.  The reader takes them all.
-/
import Mathlib.Data.List.Basic
import Mathlib.Tactic.Ring
import MovePack.Codec.Writer

namespace MovePack.Codec

/-- The bytes are a numeral of the number.  Only the last byte of a numeral is below 128. -/
inductive IsNumeral : Bytes → Nat → Prop where
  | last {b : UInt8} (h : b.toNat < 128) : IsNumeral [b] b.toNat
  | more {b : UInt8} {s : Bytes} {n : Nat} (h : 128 ≤ b.toNat) (hs : IsNumeral s n) :
      IsNumeral (b :: s) (b.toNat % 128 + 128 * n)

/-- The numeral has a digit zero at the high end, which is not its only digit. -/
def IsPadded (s : Bytes) : Prop := 1 < s.length ∧ s.getLast? = some 0

instance (s : Bytes) : Decidable (IsPadded s) := inferInstanceAs (Decidable (_ ∧ _))

/-- The numeral at the front of the bytes. -/
def numeralAt : Bytes → Bytes
  | [] => []
  | b :: rest => if b.toNat < 128 then [b] else b :: numeralAt rest

namespace IsNumeral

variable {s : Bytes} {n : Nat}

lemma ne_nil (h : IsNumeral s n) : s ≠ [] := by
  cases h <;> simp

lemma numeralAt_append (h : IsNumeral s n) (rest : Bytes) : numeralAt (s ++ rest) = s := by
  induction h with
  | last h => simp [numeralAt, h]
  | more h _ ih => simp [numeralAt, Nat.not_lt.mpr h, ih]

/-- A numeral at the front is the first byte alone, or goes on behind it with the higher digits. -/
lemma exists_cons_iff {b : UInt8} {input rest : Bytes} {P : Nat → Prop} :
    (∃ s m, IsNumeral s m ∧ b :: input = s ++ rest ∧ P m) ↔
      (b.toNat < 128 ∧ input = rest ∧ P b.toNat) ∨
        (128 ≤ b.toNat ∧
          ∃ s m, IsNumeral s m ∧ input = s ++ rest ∧ P (b.toNat % 128 + 128 * m)) := by
  constructor
  · rintro ⟨s, m, hs, hinput, hm⟩
    cases hs with
    | last h =>
      obtain ⟨rfl, rfl⟩ := List.cons.inj hinput
      exact .inl ⟨h, rfl, hm⟩
    | more h hs =>
      obtain ⟨rfl, rfl⟩ := List.cons.inj hinput
      exact .inr ⟨h, _, _, hs, rfl, hm⟩
  · rintro (⟨h, rfl, hm⟩ | ⟨h, s, m, hs, rfl, hm⟩)
    · exact ⟨_, _, .last h, rfl, hm⟩
    · exact ⟨_, _, .more h hs, rfl, hm⟩

/-- All digits of a numeral of zero are zero. -/
lemma getLast?_of_zero (h : IsNumeral s 0) : s.getLast? = some 0 := by
  generalize hn : 0 = n at h
  induction h with
  | @last b h => simp [UInt8.toNat_inj.mp (show b.toNat = (0 : UInt8).toNat by simp [← hn])]
  | @more b s n h hs ih =>
    obtain ⟨c, t, rfl⟩ := List.exists_cons_of_ne_nil hs.ne_nil
    rw [List.getLast?_cons_cons]
    exact ih (by omega)

/-- The digit at the high end is zero in the numerals of zero and in the padded ones. -/
lemma getLast?_eq_zero_iff (h : IsNumeral s n) :
    s.getLast? = some 0 ↔ n = 0 ∨ IsPadded s := by
  constructor
  · intro hlast
    cases h with
    | last h => simp_all
    | more h hs =>
      exact .inr ⟨by simpa using List.length_pos_of_ne_nil hs.ne_nil, hlast⟩
  · rintro (rfl | ⟨-, hlast⟩)
    · exact h.getLast?_of_zero
    · exact hlast

end IsNumeral

/-! ## The shortest numeral -/

lemma isNumeral_ulebBytes (n : Nat) : IsNumeral (Written.ulebBytes n) n := by
  fun_induction Written.ulebBytes n with
  | case1 n h =>
    have hb : (UInt8.ofNat n).toNat = n := UInt8.toNat_ofNat_of_lt' (by simp [UInt8.size]; omega)
    simpa [hb] using IsNumeral.last (b := UInt8.ofNat n) (by omega)
  | case2 n h ih =>
    have hb : (UInt8.ofNat (n % 128 + 128)).toNat = n % 128 + 128 :=
      UInt8.toNat_ofNat_of_lt' (by simp [UInt8.size]; omega)
    have hmore := IsNumeral.more (b := UInt8.ofNat (n % 128 + 128)) (by omega) ih
    rwa [hb, show (n % 128 + 128) % 128 + 128 * (n / 128) = n by omega] at hmore

/-- The numeral that is written is the only one without padding. -/
lemma IsNumeral.ulebBytes_eq_iff {s : Bytes} {n : Nat} (h : IsNumeral s n) :
    Written.ulebBytes n = s ↔ ¬ IsPadded s := by
  induction h with
  | last h => simp [Written.ulebBytes, h, IsPadded]
  | @more b s n h hs ih =>
    have hpadded : IsPadded (b :: s) ↔ n = 0 ∨ IsPadded s := by
      obtain ⟨c, t, rfl⟩ := List.exists_cons_of_ne_nil hs.ne_nil
      rw [← hs.getLast?_eq_zero_iff]
      simp [IsPadded]
    rw [hpadded, Written.ulebBytes]
    by_cases hn : n = 0
    · obtain ⟨c, t, rfl⟩ := List.exists_cons_of_ne_nil hs.ne_nil
      simp [hn, show b.toNat % 128 < 128 by omega]
    · -- the lowest digit is written as `b` again, and the others as the shortest numeral of `n`
      have hb : UInt8.ofNat ((b.toNat % 128 + 128 * n) % 128 + 128) = b := by
        rw [show (b.toNat % 128 + 128 * n) % 128 + 128 = b.toNat by have := b.toNat_lt; omega]
        exact UInt8.ofNat_toNat
      rw [dif_neg (by omega), hb, show (b.toNat % 128 + 128 * n) / 128 = n by omega]
      simp [hn, ih]

lemma IsNumeral.length_ulebBytes_le {s : Bytes} {n : Nat} (h : IsNumeral s n) :
    (Written.ulebBytes n).length ≤ s.length := by
  induction h with
  | last h => simp [Written.ulebBytes, h]
  | @more b s n h hs ih =>
    rw [Written.ulebBytes]
    split
    · simp
    · simpa [show (b.toNat % 128 + 128 * n) / 128 = n by omega] using ih

/-! ## The reader -/

/-- The reader finds every numeral of a number that does not exceed the largest count. -/
lemma Reader.ulebFrom_eq_ok_iff {value weight n : Nat} {input rest : Bytes} :
    Reader.ulebFrom value weight input = (.ok n, rest) ↔
      n ≤ maxCount ∧ ∃ s m, IsNumeral s m ∧ input = s ++ rest ∧ n = value + m * weight := by
  -- the digits that follow count 128 times as much, on top of the sum so far
  induction input generalizing value weight with
  | nil =>
    constructor
    · intro h
      simp [Reader.ulebFrom] at h
    · rintro ⟨-, s, m, hs, hinput, -⟩
      exact absurd (List.append_eq_nil_iff.mp hinput.symm).1 hs.ne_nil
  | cons b input ih =>
    have hsum : ∀ m, value + (b.toNat % 128 + 128 * m) * weight =
        value + b.toNat % 128 * weight + m * (weight * 128) := fun m => by ring
    simp only [IsNumeral.exists_cons_iff, hsum, Reader.ulebFrom]
    split
    next hlarge =>
      constructor
      · intro h
        simp at h
      · rintro ⟨hn, ⟨hlast, -, rfl⟩ | ⟨-, s, m, -, -, rfl⟩⟩
        · rw [Nat.mod_eq_of_lt hlast] at hlarge
          omega
        · omega
    next hsmall =>
      split
      next hlast =>
        rw [Nat.mod_eq_of_lt hlast] at hsmall ⊢
        simp only [Prod.mk.injEq, Except.ok.injEq, hlast, true_and, Nat.not_le.mpr hlast,
          false_and, or_false]
        constructor
        · rintro ⟨rfl, rfl⟩
          exact ⟨by omega, rfl, rfl⟩
        · rintro ⟨-, rfl, rfl⟩
          exact ⟨rfl, rfl⟩
      next hmore =>
        rw [ih]
        simp [hmore, Nat.not_lt.mp hmore]

end MovePack.Codec
