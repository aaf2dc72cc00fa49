/-
# Reading groups of seven bits

The reader of a variable-length integer goes on as long as the bytes say so and the groups add up to
a number of 32 bits.  It stops in one of three ways: behind the first byte below 128, behind the
first byte with which the sum is too large, or at the end of the input.  The sum never falls, so
the reader finds every integer that fits, and bytes that add nothing may follow each other for as
long as they like.  Of all bytes that are read as a number the ones that are written are the
fewest.
-/
import Mathlib.Data.Nat.Digits.Lemmas
import MovePack.Proofs.Codec.Format

namespace MovePack.Codec

variable {input s t : Bytes} {k n value weight : Nat}

/-! ## Sums of groups -/

/-- The sum of the groups in the bytes, each of which counts 128 times as much as the one
before. -/
def groupSum (s : Bytes) : Nat :=
  ((s.map fun b => b.toNat % 128).mapIdx fun i group => group * 128 ^ i).sum

/-- The first byte below 128 is the one at the place. -/
def EndsAt (input : Bytes) (k : Nat) : Prop :=
  (∀ b ∈ input.take k, 128 ≤ b.toNat) ∧ ∃ b, input[k]? = some b ∧ b.toNat < 128

/-- The groups of that many bytes add up to more than the largest count, and those of fewer bytes do
not. -/
def ExceedsAt (input : Bytes) (k : Nat) : Prop :=
  maxCount < groupSum (input.take k) ∧ ∀ j < k, groupSum (input.take j) ≤ maxCount

@[simp] lemma groupSum_nil : groupSum [] = 0 := rfl

@[simp] lemma groupSum_cons (b : UInt8) (s : Bytes) :
    groupSum (b :: s) = b.toNat % 128 + 128 * groupSum s := by
  simp only [groupSum, ← Nat.ofDigits_eq_sum_mapIdx, List.map_cons, Nat.ofDigits_cons]

/-- More bytes do not add up to less. -/
lemma groupSum_take_mono (input : Bytes) {j k : Nat} (h : j ≤ k) :
    groupSum (input.take j) ≤ groupSum (input.take k) := by
  induction input generalizing j k with
  | nil => simp
  | cons b input ih =>
    cases j with
    | zero => simp
    | succ j =>
      obtain ⟨k, rfl⟩ : ∃ m, k = m + 1 := ⟨k - 1, by omega⟩
      have hrest := ih (Nat.le_of_succ_le_succ h)
      simp only [List.take_succ_cons, groupSum_cons]
      omega

lemma not_endsAt_nil : ¬ EndsAt [] k := by
  rintro ⟨-, b, hb, -⟩
  simp at hb

lemma endsAt_zero_iff {b : UInt8} : EndsAt (b :: input) 0 ↔ b.toNat < 128 := by
  simp [EndsAt]

lemma endsAt_succ_iff {b : UInt8} :
    EndsAt (b :: input) (k + 1) ↔ 128 ≤ b.toNat ∧ EndsAt input k := by
  simp [EndsAt, and_assoc]

/-- There is one place only at which the integer ends. -/
lemma EndsAt.unique {j : Nat} (hj : EndsAt input j) (hk : EndsAt input k) : j = k := by
  induction input generalizing j k with
  | nil => exact absurd hj not_endsAt_nil
  | cons b input ih =>
    cases j <;> cases k
    · rfl
    · have hlow := endsAt_zero_iff.mp hj
      have hhigh := (endsAt_succ_iff.mp hk).1
      omega
    · have hlow := endsAt_zero_iff.mp hk
      have hhigh := (endsAt_succ_iff.mp hj).1
      omega
    · rw [ih (endsAt_succ_iff.mp hj).2 (endsAt_succ_iff.mp hk).2]

/-! ## Three ways to stop -/

namespace Reader

/-- **A reader of groups stops in one of three ways.**  What has been added up so far fits; with
what follows the integer ends and fits, or the sum becomes too large, or the bytes run out. -/
lemma ulebFrom_cases (hvalue : value ≤ maxCount) (weight : Nat) (input : Bytes) :
    (∃ k, EndsAt input k ∧ value + weight * groupSum (input.take (k + 1)) ≤ maxCount ∧
        ulebFrom value weight input =
          (.ok (value + weight * groupSum (input.take (k + 1))), input.drop (k + 1))) ∨
      (∃ k, maxCount < value + weight * groupSum (input.take k) ∧
        (∀ j < k, value + weight * groupSum (input.take j) ≤ maxCount) ∧
        (∀ i, EndsAt input i → k ≤ i + 1) ∧
        ulebFrom value weight input = (.error .countTooLarge, input.drop k)) ∨
      ((∀ k, value + weight * groupSum (input.take k) ≤ maxCount) ∧ (∀ k, ¬ EndsAt input k) ∧
        ulebFrom value weight input = (.error (.endOfInput 1 0), [])) := by
  induction input generalizing value weight with
  | nil => exact .inr (.inr ⟨by simpa using hvalue, fun _ => not_endsAt_nil, rfl⟩)
  | cons b input ih =>
    -- the groups behind the first byte count 128 times as much, on top of the sum with it
    have hsum : ∀ k, value + weight * groupSum ((b :: input).take (k + 1)) =
        value + b.toNat % 128 * weight + weight * 128 * groupSum (input.take k) := by
      intro k
      rw [List.take_succ_cons, groupSum_cons]
      ring
    have hfirst := hsum 0
    rw [List.take_zero, groupSum_nil, Nat.mul_zero, Nat.add_zero] at hfirst
    by_cases hlarge : maxCount < value + b.toNat % 128 * weight
    · refine .inr (.inl ⟨1, hfirst ▸ hlarge, fun j hj => ?_, fun i _ => by omega, ?_⟩)
      · obtain rfl : j = 0 := by omega
        simpa using hvalue
      · rw [ulebFrom, if_pos hlarge]
        rfl
    have hsmall := Nat.not_lt.mp hlarge
    by_cases hlast : b.toNat < 128
    · refine .inl ⟨0, endsAt_zero_iff.mpr hlast, hfirst ▸ hsmall, ?_⟩
      rw [ulebFrom, if_neg hlarge, if_pos hlast, hfirst]
      rfl
    have hmore := Nat.not_lt.mp hlast
    have hread : ulebFrom value weight (b :: input) =
        ulebFrom (value + b.toNat % 128 * weight) (weight * 128) input := by
      rw [ulebFrom, if_neg hlarge, if_neg hlast]
    rw [hread]
    rcases ih hsmall (weight * 128) with ⟨k, hend, hfits, h⟩ | ⟨k, hexceeds, hbefore, hend, h⟩ |
      ⟨hfits, hend, h⟩
    · refine .inl ⟨k + 1, endsAt_succ_iff.mpr ⟨hmore, hend⟩, ?_, ?_⟩
      · rw [hsum]
        exact hfits
      · rw [hsum, h]
        rfl
    · refine .inr (.inl ⟨k + 1, by rw [hsum]; exact hexceeds, fun j hj => ?_, fun i hi => ?_, h⟩)
      · cases j with
        | zero => simpa using hvalue
        | succ j =>
          rw [hsum]
          exact hbefore j (by omega)
      · cases i with
        | zero => exact absurd (endsAt_zero_iff.mp hi) hlast
        | succ i => exact Nat.succ_le_succ (hend i (endsAt_succ_iff.mp hi).2)
    · refine .inr (.inr ⟨fun k => ?_, fun k hk => ?_, h⟩)
      · cases k with
        | zero => simpa using hvalue
        | succ k =>
          rw [hsum]
          exact hfits k
      · cases k with
        | zero => exact hlast (endsAt_zero_iff.mp hk)
        | succ k => exact hend k (endsAt_succ_iff.mp hk).2

/-- An integer is read, or the sum becomes too large, or the bytes run out. -/
lemma read_uleb_cases (input : Bytes) :
    (∃ k, EndsAt input k ∧ groupSum (input.take (k + 1)) ≤ maxCount ∧
        uleb.read input = (.ok (groupSum (input.take (k + 1))), input.drop (k + 1))) ∨
      (∃ k, ExceedsAt input k ∧ (∀ i, EndsAt input i → k ≤ i + 1) ∧
        uleb.read input = (.error .countTooLarge, input.drop k)) ∨
      ((∀ k, groupSum (input.take k) ≤ maxCount) ∧ (∀ k, ¬ EndsAt input k) ∧
        uleb.read input = (.error (.endOfInput 1 0), [])) := by
  have hcases := ulebFrom_cases (Nat.zero_le maxCount) 1 input
  simp only [Nat.zero_add, Nat.one_mul] at hcases
  rcases hcases with h | ⟨k, hexceeds, hbefore, h⟩ | h
  · exact .inl h
  · exact .inr (.inl ⟨k, ⟨hexceeds, hbefore⟩, h⟩)
  · exact .inr (.inr h)

lemma read_uleb_eq_ok_iff_endsAt {rest : Bytes} :
    uleb.read input = (.ok n, rest) ↔
      ∃ k, EndsAt input k ∧ groupSum (input.take (k + 1)) = n ∧ n ≤ maxCount ∧
        rest = input.drop (k + 1) := by
  constructor
  · intro hread
    rcases read_uleb_cases input with ⟨k, hend, hfits, h⟩ | ⟨k, -, -, h⟩ | ⟨-, -, h⟩
    · obtain ⟨hn, hrest⟩ := Prod.mk.inj (h.symm.trans hread)
      obtain rfl := Except.ok.inj hn
      exact ⟨k, hend, rfl, hfits, hrest.symm⟩
    · cases h.symm.trans hread
    · cases h.symm.trans hread
  · rintro ⟨k, hend, rfl, hfits, rfl⟩
    rcases read_uleb_cases input with ⟨j, hend', -, h⟩ | ⟨j, hexceeds, hlast, -⟩ | ⟨-, hnone, -⟩
    · rw [hend.unique hend', h]
    · -- the sum would not become too large before the integer ends
      have hmono := groupSum_take_mono input (hlast k hend)
      exact absurd hexceeds.1 (by omega)
    · exact absurd hend (hnone k)

/-! ## Bits -/

lemma and_0x80_eq_zero_iff (b : UInt8) : b.toNat &&& 0x80 = 0 ↔ b.toNat < 128 := by
  have hbits : ∀ n < 256, n &&& 0x80 = 0 ↔ n < 128 := by decide +kernel
  exact hbits b.toNat b.toNat_lt

/-- The bits of a group are its share of the sum, as those below it are taken already. -/
lemma or_shiftLeft_eq_add {shift : Nat} (h : value < 2 ^ shift) (b : UInt8) :
    value ||| (b.toNat &&& 0x7f) <<< shift = value + b.toNat % 128 * 2 ^ shift := by
  have hgroup : b.toNat &&& 0x7f = b.toNat % 128 := Nat.and_two_pow_sub_one_eq_mod b.toNat 7
  rw [hgroup, Nat.or_comm, ← Nat.shiftLeft_add_eq_or_of_lt h, Nat.shiftLeft_eq, Nat.add_comm]

/-- The loop adds up the groups. -/
lemma bitsFrom_eq {shift : Nat} (hvalue : value ≤ maxCount) (hshift : value < 2 ^ shift)
    (input : Bytes) : bitsFrom value shift input = ulebFrom value (2 ^ shift) input := by
  induction input generalizing value shift with
  | nil => simp [bitsFrom, ulebFrom, Nat.not_lt.mpr hvalue]
  | cons b input ih =>
    have hnext : value + b.toNat % 128 * 2 ^ shift < 2 ^ (shift + 7) := by
      have hgroup : b.toNat % 128 * 2 ^ shift ≤ 127 * 2 ^ shift := Nat.mul_le_mul_right _ (by omega)
      have hpow : 2 ^ (shift + 7) = 128 * 2 ^ shift := by ring
      omega
    rw [bitsFrom, if_neg (Nat.not_lt.mpr hvalue), ulebFrom]
    simp only [or_shiftLeft_eq_add hshift, and_0x80_eq_zero_iff]
    by_cases hlast : b.toNat < 128
    · simp only [hlast, if_true]
      split <;> rfl
    · simp only [hlast, if_false]
      by_cases hlarge : maxCount < value + b.toNat % 128 * 2 ^ shift
      · -- the loop finds out before it reads on
        rw [if_pos hlarge, bitsFrom.eq_def, if_pos hlarge]
      · rw [if_neg hlarge, ih (Nat.not_lt.mp hlarge) hnext, pow_add]
        rfl

lemma read_uleb_eq_bitsFrom (input : Bytes) : uleb.read input = bitsFrom 0 0 input :=
  (bitsFrom_eq (Nat.zero_le maxCount) (show 0 < 2 ^ 0 from Nat.one_pos) input).symm

end Reader

/-! ## The fewest bytes -/

/-- Numerals of one number that have as many bytes are the same. -/
lemma IsNumeral.eq_of_length_eq (hs : IsNumeral s n) (ht : IsNumeral t n)
    (hlength : s.length = t.length) : s = t := by
  induction hs generalizing t with
  | @last b hb =>
    generalize hn : b.toNat = n at ht
    cases ht with
    | last hc => rw [UInt8.toNat_inj.mp hn]
    | more hc ht =>
      have hpos := List.length_pos_of_ne_nil ht.ne_nil
      simp only [List.length_cons, List.length_nil] at hlength
      omega
  | @more b s n hb hs ih =>
    generalize hm : b.toNat % 128 + 128 * n = m at ht
    cases ht with
    | last hc =>
      have hpos := List.length_pos_of_ne_nil hs.ne_nil
      simp only [List.length_cons, List.length_nil] at hlength
      omega
    | @more c t m hc ht =>
      have hbound := b.toNat_lt
      have hbound' := c.toNat_lt
      obtain rfl : n = m := by omega
      obtain rfl : b = c := UInt8.toNat_inj.mp (by omega)
      rw [ih ht (by simpa using hlength)]

/-- **Integers are read exactly, and written in the fewest bytes.**  From any place in the data an
integer is read when a byte below 128 comes and the groups up to the first such byte add up to a
number of 32 bits, which it is; then these bytes are taken.  In every other case there is a fault:
the fewest bytes whose groups add up to too much are taken, or all that are left when these do not.
That is what the loop over bits does.  An integer that fits is written in bytes from which it is
read, and in fewer than all others from which it is read. -/
theorem Reader.uleb_exact (data : Bytes) (position : Nat) :
    (∀ v rest, uleb.read (data.drop position) = (.ok v, rest) ↔
      ∃ k, EndsAt (data.drop position) k ∧ groupSum ((data.drop position).take (k + 1)) = v ∧
        v ≤ maxCount ∧ rest = data.drop (position + (k + 1))) ∧
    ((∀ k, EndsAt (data.drop position) k →
        maxCount < groupSum ((data.drop position).take (k + 1))) →
      (∃ k, ExceedsAt (data.drop position) k ∧
          uleb.read (data.drop position) = (.error .countTooLarge, data.drop (position + k))) ∨
        (∀ k, ¬ ExceedsAt (data.drop position) k) ∧
          uleb.read (data.drop position) = (.error (.endOfInput 1 0), [])) ∧
    uleb.read (data.drop position) = bitsFrom 0 0 (data.drop position) ∧
    ∀ v ≤ maxCount, ∃ written, Written.uleb v = ⟨written, none⟩ ∧
      (∀ rest, uleb.read (written ++ rest) = (.ok v, rest)) ∧
      ∀ s rest, uleb.read (s ++ rest) = (.ok v, rest) →
        s = written ∨ written.length < s.length := by
  refine ⟨fun v rest => ?_, fun hnone => ?_, read_uleb_eq_bitsFrom _, fun v hv => ?_⟩
  · rw [read_uleb_eq_ok_iff_endsAt]
    simp only [List.drop_drop]
  · rcases read_uleb_cases (data.drop position) with ⟨k, hend, hfits, -⟩ | ⟨k, hexceeds, -, h⟩ |
      ⟨hfits, -, h⟩
    · exact absurd (hnone k hend) (Nat.not_lt.mpr hfits)
    · exact .inl ⟨k, hexceeds, by rw [h, List.drop_drop]⟩
    · exact .inr ⟨fun k hk => absurd hk.1 (Nat.not_lt.mpr (hfits k)), h⟩
  · have hwritten := isNumeral_ulebBytes v
    refine ⟨Written.ulebBytes v, Written.uleb_of_le hv, fun rest => ?_, fun s rest hs => ?_⟩
    · exact read_uleb_eq_ok_iff.mpr ⟨hv, _, hwritten, rfl⟩
    · obtain ⟨-, t, ht, happend⟩ := read_uleb_eq_ok_iff.mp hs
      obtain rfl := List.append_cancel_right happend
      obtain hlength | hlength := ht.length_ulebBytes_le.eq_or_lt
      · exact .inl (ht.eq_of_length_eq hwritten hlength.symm)
      · exact .inr hlength

/-- A zero in two bytes is read behind another byte, five bytes are one too many for a number of 32
bits, and the number 300 is written in two. -/
theorem Reader.uleb_exact_padded :
    uleb.read ([9, 0x80, 0, 5].drop 1) = (.ok 0, [5]) ∧
    (∃ k, ExceedsAt [0xff, 0xff, 0xff, 0xff, 0x1f, 7] k ∧
      uleb.read [0xff, 0xff, 0xff, 0xff, 0x1f, 7] =
        (.error .countTooLarge, [0xff, 0xff, 0xff, 0xff, 0x1f, 7].drop k)) ∧
    300 ≤ maxCount ∧ uleb.read [0xac, 2] = (.ok 300, []) := by
  obtain ⟨hzero, -, -, -⟩ := uleb_exact [9, 0x80, 0, 5] 1
  obtain ⟨-, hfault, -, hwrite⟩ := uleb_exact [0xff, 0xff, 0xff, 0xff, 0x1f, 7] 0
  have hend : EndsAt [0x80, 0, 5] 1 := ⟨by simp, 0, rfl, by decide⟩
  have hlong : EndsAt [0xff, 0xff, 0xff, 0xff, 0x1f, 7] 4 := ⟨by simp, 0x1f, rfl, by decide⟩
  have hexceeds : ExceedsAt [0xff, 0xff, 0xff, 0xff, 0x1f, 7] 5 :=
    ⟨by decide, by decide +kernel⟩
  refine ⟨(hzero 0 [5]).mpr ⟨1, hend, rfl, by decide, rfl⟩, ?_, by decide, ?_⟩
  · rcases hfault fun k hk => hk.unique hlong ▸ hexceeds.1 with ⟨k, hk, h⟩ | ⟨hnone, -⟩
    · exact ⟨k, hk, by simpa using h⟩
    · exact absurd hexceeds (hnone 5)
  · obtain ⟨written, hwritten, hread, -⟩ := hwrite 300 (by decide)
    have hbytes : written = [0xac, 2] := by
      rw [Written.uleb_of_le (by decide)] at hwritten
      cases hwritten
      cbv
    simpa [hbytes] using hread []

end MovePack.Codec
