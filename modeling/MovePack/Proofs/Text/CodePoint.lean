/-
# Code points and their numbers

A code point is determined by its number, and found from it.  The ASCII digits are the characters
with a value, which is below ten.  A text is cut at the first occurrence of a character into what
stands before it and what stands behind it.  An integer is shown unless it has too many digits.
-/
import Mathlib.Data.List.Basic
import Mathlib.Tactic.Ring
import MovePack.Text.CodePoint

namespace MovePack

namespace CodePoint

lemma toNat_injective : Function.Injective CodePoint.toNat := by
  rintro (c | i) (d | j) h <;> simp only [CodePoint.toNat] at h
  · rw [Char.toNat_inj.mp h]
  -- the number of a surrogate is that of no character
  · have hc : c.toNat.isValidChar := c.valid
    simp only [Nat.isValidChar] at hc
    omega
  · have hd : d.toNat.isValidChar := d.valid
    simp only [Nat.isValidChar] at hd
    omega
  · rw [Fin.ext (Nat.add_left_cancel h)]

lemma toNat_of_ofNat? {n : Nat} {c : CodePoint} (h : ofNat? n = some c) : c.toNat = n := by
  rw [ofNat?] at h
  by_cases hchar : n.isValidChar
  · rw [dif_pos hchar] at h
    cases h
    rfl
  · by_cases hsurrogate : 0xD800 ≤ n ∧ n - 0xD800 < 0x800
    · rw [dif_neg hchar, dif_pos hsurrogate] at h
      cases h
      exact Nat.add_sub_cancel' hsurrogate.1
    · rw [dif_neg hchar, dif_neg hsurrogate] at h
      cases h

lemma ofNat?_eq_some_iff {n : Nat} {c : CodePoint} : ofNat? n = some c ↔ c.toNat = n := by
  refine ⟨toNat_of_ofNat?, ?_⟩
  rintro rfl
  -- there is a code point of this number, and no other one
  have hsome : ∃ d, ofNat? c.toNat = some d := by
    rw [ofNat?]
    by_cases hchar : c.toNat.isValidChar
    · exact ⟨_, dif_pos hchar⟩
    · cases c with
      | scalar c => exact absurd c.valid hchar
      | surrogate offset =>
        have hsurrogate : 0xD800 ≤ (surrogate offset).toNat ∧
            (surrogate offset).toNat - 0xD800 < 0x800 :=
          ⟨Nat.le_add_right .., by simp [toNat]⟩
        exact ⟨_, (dif_neg hchar).trans (dif_pos hsurrogate)⟩
  obtain ⟨d, hd⟩ := hsome
  rw [hd, toNat_injective (toNat_of_ofNat? hd)]

lemma asciiDigit?_eq_some_iff {c : CodePoint} {d : Nat} :
    c.asciiDigit? = some d ↔
      ∃ digit : Char, digit.isDigit = true ∧ c = .scalar digit ∧ d = digit.toNat - '0'.toNat := by
  cases c with
  | surrogate offset => simp [asciiDigit?]
  | scalar c =>
    have hdigit : ('0' ≤ c ∧ c ≤ '9') ↔ c.isDigit = true := by
      simp [Char.isDigit, Char.le_def]
    simp only [asciiDigit?, hdigit, Option.ite_none_right_eq_some, Option.some.injEq]
    constructor
    · rintro ⟨hc, rfl⟩
      exact ⟨c, hc, rfl, rfl⟩
    · rintro ⟨digit, hc, heq, rfl⟩
      cases heq
      exact ⟨hc, rfl⟩

lemma lt_of_asciiDigit? {c : CodePoint} {d : Nat} (h : c.asciiDigit? = some d) : d < 10 := by
  obtain ⟨digit, hdigit, -, rfl⟩ := asciiDigit?_eq_some_iff.mp h
  have hle := (Char.isDigit_iff_toNat.mp hdigit).2
  have hnine : '9'.toNat = '0'.toNat + 9 := rfl
  omega

/-- Only a low surrogate is joined to what precedes it, and a character comes about. -/
lemma exists_of_joined? {a b both : CodePoint} (h : a.joined? b = some both) :
    (∃ c, both = .scalar c) ∧ ∀ next, b.joined? next = none := by
  cases a with
  | scalar c => cases h
  | surrogate high =>
    cases b with
    | scalar c => cases h
    | surrogate low =>
      rw [joined?, Option.ite_none_right_eq_some] at h
      obtain ⟨⟨-, hlow⟩, h⟩ := h
      refine ⟨⟨_, (Option.some.inj h).symm⟩, fun next => ?_⟩
      cases next with
      | scalar c => rfl
      | surrogate offset => rw [joined?, if_neg (by omega)]

end CodePoint

namespace Text

lemma splitFirst?_eq_some {c : Char} {before : Text} (h : CodePoint.scalar c ∉ before)
    (after : Text) : splitFirst? c (before ++ .scalar c :: after) = some (before, after) := by
  induction before with
  | nil => simp [splitFirst?]
  | cons x before ih =>
    rw [List.mem_cons, not_or] at h
    rw [List.cons_append, splitFirst?, if_neg (Ne.symm h.1), ih h.2]
    rfl

lemma shown?_of_lt {i : Int} (h : i.natAbs < 10 ^ maxShownDigits) : shown? i = some (ofInt i) := by
  rw [shown?, Nat.pow_eq, if_neg (Nat.not_le.mpr h)]

lemma shown?_of_le {i : Int} (h : 10 ^ maxShownDigits ≤ i.natAbs) : shown? i = none := by
  rw [shown?, Nat.pow_eq, if_pos h]

end Text

end MovePack
