/-
# UTF-8

Decoding undoes encoding, and it takes nothing else: bytes that hold a text are its encoded form.
-/
import Mathlib.Data.List.Basic
import MovePack.Proofs.Except
import MovePack.Text.Encoding

namespace MovePack

/-- A text is encoded when the encoding carries all its code points. -/
lemma Charset.encode_eq_ok {charset : Charset} {t : Text} (h : ∀ c ∈ t, charset.carries c = true) :
    charset.encode t = .ok (Utf8.bytes t) := by
  have hfrom : ∀ position, charset.encodeFrom position t = .ok (Utf8.bytes t) := by
    induction t with
    | nil => exact fun _ => rfl
    | cons c t ih =>
      intro position
      obtain ⟨hc, ht⟩ := List.forall_mem_cons.mp h
      rw [encodeFrom, if_pos hc, ih ht]
      rfl
  exact hfrom 0

/-- A text that is encoded holds no other code points. -/
lemma Charset.carries_of_encode {charset : Charset} {t : Text} {b : Bytes}
    (h : charset.encode t = .ok b) : ∀ c ∈ t, charset.carries c = true := by
  rw [encode] at h
  generalize 0 = position at h
  induction t generalizing position b with
  | nil => simp
  | cons c t ih =>
    rw [encodeFrom] at h
    split at h
    next hc =>
      obtain ⟨rest, hrest, -⟩ := Except.map_eq_ok_iff.mp h
      exact List.forall_mem_cons.mpr ⟨hc, ih _ hrest⟩
    next => cases h

namespace Utf8

open String (utf8EncodeChar)

/-! ## One character -/

lemma sequenceOf?_two {lead : Nat} (hlow : 0xC2 ≤ lead) (hhigh : lead < 0xE0) :
    sequenceOf? lead = some (1, 0x80, 0xBF) := by
  simp only [sequenceOf?]
  rw [if_neg (by omega), if_neg (by omega), if_pos hhigh]

/-- The second byte of three is in the range of the first one, unless they are an overlong form or
a surrogate. -/
lemma sequenceOf?_three {lead second : Nat} (hlow : 0xE0 ≤ lead) (hhigh : lead < 0xF0)
    (hsecond : 0x80 ≤ second ∧ second ≤ 0xBF) (hoverlong : lead = 0xE0 → 0xA0 ≤ second)
    (hsurrogate : lead = 0xED → second ≤ 0x9F) :
    ∃ low high, sequenceOf? lead = some (2, low, high) ∧ low ≤ second ∧ second ≤ high := by
  simp only [sequenceOf?]
  rw [if_neg (by omega), if_neg (by omega), if_neg (by omega), if_pos hhigh]
  split
  next h => exact ⟨_, _, rfl, hoverlong h, hsecond.2⟩
  split
  next h => exact ⟨_, _, rfl, hsecond.1, hsurrogate h⟩
  exact ⟨_, _, rfl, hsecond.1, hsecond.2⟩

/-- The second byte of four is in the range of the first one, unless they are an overlong form or
the number of no code point. -/
lemma sequenceOf?_four {lead second : Nat} (hlow : 0xF0 ≤ lead) (hhigh : lead ≤ 0xF4)
    (hsecond : 0x80 ≤ second ∧ second ≤ 0xBF) (hoverlong : lead = 0xF0 → 0x90 ≤ second)
    (hlarge : lead = 0xF4 → second ≤ 0x8F) :
    ∃ low high, sequenceOf? lead = some (3, low, high) ∧ low ≤ second ∧ second ≤ high := by
  simp only [sequenceOf?]
  rw [if_neg (by omega), if_neg (by omega), if_neg (by omega), if_neg (by omega), if_neg (by omega),
    if_neg (by omega)]
  split
  next h => exact ⟨_, _, rfl, hoverlong h, hsecond.2⟩
  split
  next h => exact ⟨_, _, rfl, hsecond.1, hsecond.2⟩
  rw [if_pos (by omega)]
  exact ⟨_, _, rfl, hsecond.1, hlarge (by omega)⟩

section Sequences

variable {position low high : Nat} {a b c d : UInt8} {rest : Bytes}

lemma decodeFrom_one (ha : sequenceOf? a.toNat = some (0, low, high)) :
    decodeFrom position (a :: rest) =
      (decodeFrom (position + 1) rest).map (charOf a.toNat :: ·) := by
  simp [decodeFrom, ha]

lemma decodeFrom_two (ha : sequenceOf? a.toNat = some (1, low, high))
    (hb : low ≤ b.toNat ∧ b.toNat ≤ high) :
    decodeFrom position (a :: b :: rest) =
      (decodeFrom (position + 2) rest).map
        (charOf ((a.toNat - 0xC0) * 0x40 + (b.toNat - 0x80)) :: ·) := by
  simp [decodeFrom, ha, hb]

lemma decodeFrom_three (ha : sequenceOf? a.toNat = some (2, low, high))
    (hb : low ≤ b.toNat ∧ b.toNat ≤ high) (hc : 0x80 ≤ c.toNat ∧ c.toNat ≤ 0xBF) :
    decodeFrom position (a :: b :: c :: rest) =
      (decodeFrom (position + 3) rest).map
        (charOf ((a.toNat - 0xE0) * 0x1000 + (b.toNat - 0x80) * 0x40 + (c.toNat - 0x80)) :: ·) := by
  simp [decodeFrom, ha, hb, hc]

lemma decodeFrom_four (ha : sequenceOf? a.toNat = some (3, low, high))
    (hb : low ≤ b.toNat ∧ b.toNat ≤ high) (hc : 0x80 ≤ c.toNat ∧ c.toNat ≤ 0xBF)
    (hd : 0x80 ≤ d.toNat ∧ d.toNat ≤ 0xBF) :
    decodeFrom position (a :: b :: c :: d :: rest) =
      (decodeFrom (position + 4) rest).map
        (charOf ((a.toNat - 0xF0) * 0x40000 + (b.toNat - 0x80) * 0x1000
          + (c.toNat - 0x80) * 0x40 + (d.toNat - 0x80)) :: ·) := by
  simp [decodeFrom, ha, hb, hc, hd]

end Sequences

/-- The encoded form of a character at the front of the input is decoded to it. -/
lemma decodeFrom_utf8EncodeChar_append (position : Nat) (c : Char) (rest : Bytes) :
    decodeFrom position (utf8EncodeChar c ++ rest) =
      (decodeFrom (position + (utf8EncodeChar c).length) rest).map (.scalar c :: ·) := by
  have hvalid : c.toNat < 0xD800 ∨ 0xDFFF < c.toNat ∧ c.toNat < 0x110000 := c.valid
  have hchar : ∀ n, n = c.toNat → charOf n = .scalar c := by
    rintro n rfl
    simp [charOf]
  have hbyte : ∀ n, n < 256 → (UInt8.ofNat n).toNat = n := fun n hn =>
    UInt8.toNat_ofNat_of_lt' (by simpa [UInt8.size] using hn)
  simp only [utf8EncodeChar, Char.toNat_val]
  generalize c.toNat = v at hvalid hchar
  -- one case for each number of bytes; that the first two fit together is arithmetic on `v`
  split
  next h1 =>
    have ha := hbyte v (by omega)
    have hseq : sequenceOf? v = some (0, 0, 0) := by
      rw [sequenceOf?, if_pos (by omega)]
    rw [← ha] at hseq
    rw [List.cons_append, decodeFrom_one hseq, hchar _ ha]
    rfl
  split
  next h1 h2 =>
    have ha := hbyte (v / 64 % 0x20 + 0xC0) (by omega)
    have hb := hbyte (v % 0x40 + 0x80) (by omega)
    have hseq := @sequenceOf?_two (v / 64 % 0x20 + 0xC0) (by omega) (by omega)
    rw [← ha] at hseq
    rw [List.cons_append, List.cons_append, decodeFrom_two hseq (by omega), hchar _ (by omega)]
    rfl
  split
  next h1 h2 h3 =>
    have ha := hbyte (v / 4096 % 0x10 + 0xE0) (by omega)
    have hb := hbyte (v / 64 % 0x40 + 0x80) (by omega)
    have hc := hbyte (v % 0x40 + 0x80) (by omega)
    obtain ⟨low, high, hseq, hlow, hhigh⟩ :=
      @sequenceOf?_three (v / 4096 % 0x10 + 0xE0) (v / 64 % 0x40 + 0x80)
      (by omega) (by omega) (by omega) (by omega) (by omega)
    rw [← ha] at hseq
    rw [List.cons_append, List.cons_append, List.cons_append,
      decodeFrom_three hseq (by omega) (by omega), hchar _ (by omega)]
    rfl
  next h1 h2 h3 =>
    have ha := hbyte (v / 262144 % 0x08 + 0xF0) (by omega)
    have hb := hbyte (v / 4096 % 0x40 + 0x80) (by omega)
    have hc := hbyte (v / 64 % 0x40 + 0x80) (by omega)
    have hd := hbyte (v % 0x40 + 0x80) (by omega)
    obtain ⟨low, high, hseq, hlow, hhigh⟩ :=
      @sequenceOf?_four (v / 262144 % 0x08 + 0xF0) (v / 4096 % 0x40 + 0x80)
      (by omega) (by omega) (by omega) (by omega) (by omega)
    rw [← ha] at hseq
    rw [List.cons_append, List.cons_append, List.cons_append, List.cons_append,
      decodeFrom_four hseq (by omega) (by omega) (by omega), hchar _ (by omega)]
    rfl

/-! ## What is decoded -/

/-- What a first byte says about itself and the second one, by the number of the bytes. -/
lemma sequenceOf?_eq_some {lead count low high : Nat}
    (h : sequenceOf? lead = some (count, low, high)) :
    (count = 0 ∧ lead < 0x80) ∨
      (count = 1 ∧ 0xC2 ≤ lead ∧ lead < 0xE0 ∧ 0x80 ≤ low ∧ high ≤ 0xBF) ∨
      (count = 2 ∧ 0xE0 ≤ lead ∧ lead < 0xF0 ∧ 0x80 ≤ low ∧ high ≤ 0xBF ∧
        (lead = 0xE0 → 0xA0 ≤ low) ∧ (lead = 0xED → high ≤ 0x9F)) ∨
      (count = 3 ∧ 0xF0 ≤ lead ∧ lead ≤ 0xF4 ∧ 0x80 ≤ low ∧ high ≤ 0xBF ∧
        (lead = 0xF0 → 0x90 ≤ low) ∧ (lead = 0xF4 → high ≤ 0x8F)) := by
  rw [sequenceOf?] at h
  repeat' split at h
  all_goals
    simp only [reduceCtorEq, Option.some.injEq, Prod.mk.injEq] at h
    try omega

section Characters

variable {a b c d : UInt8}

lemma ofNat_eq_of_toNat {n : Nat} (h : n = a.toNat) : UInt8.ofNat n = a := by
  rw [h, UInt8.ofNat_toNat]

lemma toNat_val_ofNat {n : Nat} (h : n.isValidChar) : (Char.ofNat n).val.toNat = n := by
  rw [Char.ofNat, dif_pos h]
  rfl

lemma exists_utf8EncodeChar_one (ha : a.toNat < 0x80) : ∃ x, utf8EncodeChar x = [a] := by
  refine ⟨Char.ofNat a.toNat, ?_⟩
  rw [utf8EncodeChar, toNat_val_ofNat (.inl (by omega)), if_pos (by omega), UInt8.ofNat_toNat]

lemma exists_utf8EncodeChar_two (ha : 0xC2 ≤ a.toNat ∧ a.toNat < 0xE0)
    (hb : 0x80 ≤ b.toNat ∧ b.toNat ≤ 0xBF) : ∃ x, utf8EncodeChar x = [a, b] := by
  obtain ⟨v, hv⟩ : ∃ v, v = (a.toNat - 0xC0) * 0x40 + (b.toNat - 0x80) := ⟨_, rfl⟩
  refine ⟨Char.ofNat v, ?_⟩
  have h1 : UInt8.ofNat (v / 64 % 0x20 + 0xC0) = a := ofNat_eq_of_toNat (by omega)
  have h2 : UInt8.ofNat (v % 0x40 + 0x80) = b := ofNat_eq_of_toNat (by omega)
  rw [utf8EncodeChar, toNat_val_ofNat (.inl (by omega)), if_neg (by omega), if_pos (by omega),
    h1, h2]

lemma exists_utf8EncodeChar_three (ha : 0xE0 ≤ a.toNat ∧ a.toNat < 0xF0)
    (hb : 0x80 ≤ b.toNat ∧ b.toNat ≤ 0xBF) (hc : 0x80 ≤ c.toNat ∧ c.toNat ≤ 0xBF)
    (hoverlong : a.toNat = 0xE0 → 0xA0 ≤ b.toNat) (hsurrogate : a.toNat = 0xED → b.toNat ≤ 0x9F) :
    ∃ x, utf8EncodeChar x = [a, b, c] := by
  obtain ⟨v, hv⟩ : ∃ v, v =
    (a.toNat - 0xE0) * 0x1000 + (b.toNat - 0x80) * 0x40 + (c.toNat - 0x80) := ⟨_, rfl⟩
  have hvalid : v.isValidChar := by
    simp only [Nat.isValidChar]
    omega
  refine ⟨Char.ofNat v, ?_⟩
  have h1 : UInt8.ofNat (v / 4096 % 0x10 + 0xE0) = a := ofNat_eq_of_toNat (by omega)
  have h2 : UInt8.ofNat (v / 64 % 0x40 + 0x80) = b := ofNat_eq_of_toNat (by omega)
  have h3 : UInt8.ofNat (v % 0x40 + 0x80) = c := ofNat_eq_of_toNat (by omega)
  rw [utf8EncodeChar, toNat_val_ofNat hvalid, if_neg (by omega), if_neg (by omega),
    if_pos (by omega), h1, h2, h3]

lemma exists_utf8EncodeChar_four (ha : 0xF0 ≤ a.toNat ∧ a.toNat ≤ 0xF4)
    (hb : 0x80 ≤ b.toNat ∧ b.toNat ≤ 0xBF) (hc : 0x80 ≤ c.toNat ∧ c.toNat ≤ 0xBF)
    (hd : 0x80 ≤ d.toNat ∧ d.toNat ≤ 0xBF)
    (hoverlong : a.toNat = 0xF0 → 0x90 ≤ b.toNat) (hlarge : a.toNat = 0xF4 → b.toNat ≤ 0x8F) :
    ∃ x, utf8EncodeChar x = [a, b, c, d] := by
  obtain ⟨v, hv⟩ : ∃ v, v = (a.toNat - 0xF0) * 0x40000 + (b.toNat - 0x80) * 0x1000
    + (c.toNat - 0x80) * 0x40 + (d.toNat - 0x80) := ⟨_, rfl⟩
  have hvalid : v.isValidChar := by
    simp only [Nat.isValidChar]
    omega
  refine ⟨Char.ofNat v, ?_⟩
  have h1 : UInt8.ofNat (v / 262144 % 0x08 + 0xF0) = a := ofNat_eq_of_toNat (by omega)
  have h2 : UInt8.ofNat (v / 4096 % 0x40 + 0x80) = b := ofNat_eq_of_toNat (by omega)
  have h3 : UInt8.ofNat (v / 64 % 0x40 + 0x80) = c := ofNat_eq_of_toNat (by omega)
  have h4 : UInt8.ofNat (v % 0x40 + 0x80) = d := ofNat_eq_of_toNat (by omega)
  rw [utf8EncodeChar, toNat_val_ofNat hvalid, if_neg (by omega), if_neg (by omega),
    if_neg (by omega), h1, h2, h3, h4]

end Characters

/-- Bytes that hold a text begin with the encoded form of a character. -/
lemma exists_utf8EncodeChar_append {position : Nat} {a : UInt8} {s : Bytes} {t : Text}
    (h : decodeFrom position (a :: s) = .ok t) : ∃ x rest, a :: s = utf8EncodeChar x ++ rest := by
  rw [decodeFrom] at h
  -- only the branches that go on behind the character end in a text
  simp only [Bool.not_eq_true', Bool.and_eq_false_iff, decide_eq_false_iff_not, Nat.not_le] at h
  split at h
  next => simp at h
  next low high hseq =>
    have hlead := sequenceOf?_eq_some hseq
    obtain ⟨x, hx⟩ := exists_utf8EncodeChar_one (a := a) (by omega)
    exact ⟨x, s, by rw [hx]; rfl⟩
  next low high hseq =>
    have hlead := sequenceOf?_eq_some hseq
    split at h
    · simp at h
    split at h
    · simp at h
    next b rest hb =>
      obtain ⟨x, hx⟩ := exists_utf8EncodeChar_two (a := a) (b := b) (by omega) (by omega)
      exact ⟨x, rest, by rw [hx]; rfl⟩
  next low high hseq =>
    have hlead := sequenceOf?_eq_some hseq
    split at h
    · simp at h
    split at h
    · simp at h
    next b _ hb =>
      split at h
      · simp at h
      split at h
      · simp at h
      next c rest hc =>
        obtain ⟨x, hx⟩ := exists_utf8EncodeChar_three (a := a) (b := b) (c := c)
          (by omega) (by omega) (by omega) (by omega) (by omega)
        exact ⟨x, rest, by rw [hx]; rfl⟩
  next count low high h0 h1 h2 hseq =>
    have hlead := sequenceOf?_eq_some hseq
    have hcount : count ≠ 0 ∧ count ≠ 1 ∧ count ≠ 2 := ⟨h0, h1, h2⟩
    split at h
    · simp at h
    split at h
    · simp at h
    next b _ hb =>
      split at h
      · simp at h
      split at h
      · simp at h
      next c _ hc =>
        split at h
        · simp at h
        split at h
        · simp at h
        next d rest hd =>
          obtain ⟨x, hx⟩ := exists_utf8EncodeChar_four (a := a) (b := b) (c := c) (d := d)
            (by omega) (by omega) (by omega) (by omega) (by omega) (by omega)
          exact ⟨x, rest, by rw [hx]; rfl⟩

lemma bytes_scalar_cons (c : Char) (t : Text) :
    bytes (.scalar c :: t) = utf8EncodeChar c ++ bytes t := rfl

lemma decodeFrom_bytes (position : Nat) {t : Text} (h : ∀ c ∈ t, c.isSurrogate = false) :
    decodeFrom position (bytes t) = .ok t := by
  induction t generalizing position with
  | nil => rfl
  | cons c t ih =>
    obtain ⟨hc, ht⟩ := List.forall_mem_cons.mp h
    cases c with
    | scalar c => rw [bytes_scalar_cons, decodeFrom_utf8EncodeChar_append, ih _ ht, Except.map]
    | surrogate offset => cases hc

lemma eq_bytes_of_decodeFrom {position : Nat} {b : Bytes} {t : Text}
    (h : decodeFrom position b = .ok t) : (∀ c ∈ t, c.isSurrogate = false) ∧ b = bytes t := by
  -- a character takes several bytes, so the induction is on how many there are
  induction hlen : b.length using Nat.strongRecOn generalizing position b t with
  | ind length ih =>
    cases b with
    | nil =>
      cases h
      simp [bytes]
    | cons a s =>
      obtain ⟨x, rest, hs⟩ := exists_utf8EncodeChar_append h
      rw [hs, decodeFrom_utf8EncodeChar_append] at h
      cases hrest : decodeFrom (position + (utf8EncodeChar x).length) rest with
      | error fault =>
        rw [hrest] at h
        cases h
      | ok t' =>
        rw [hrest] at h
        cases h
        have hlt : rest.length < length := by
          have hpos := x.utf8Size_pos
          rw [← hlen, hs, List.length_append, String.length_utf8EncodeChar]
          omega
        obtain ⟨ht', rfl⟩ := ih _ hlt hrest rfl
        exact ⟨List.forall_mem_cons.mpr ⟨rfl, ht'⟩, hs⟩

/-- Decoding takes the encoded forms of texts without surrogates, and gives these texts. -/
theorem decode_eq_ok_iff {b : Bytes} {t : Text} :
    decode b = .ok t ↔ (∀ c ∈ t, c.isSurrogate = false) ∧ b = bytes t := by
  refine ⟨eq_bytes_of_decodeFrom, ?_⟩
  rintro ⟨ht, rfl⟩
  exact decodeFrom_bytes 0 ht

/-- A text without surrogates has an encoded form. -/
theorem encode_eq_ok {t : Text} (h : ∀ c ∈ t, c.isSurrogate = false) :
    encode t = .ok (bytes t) :=
  Charset.encode_eq_ok fun c hc => by simp [Charset.carries, h c hc]

/-- A text that has an encoded form is without surrogates. -/
theorem isSurrogate_of_encode {t : Text} {b : Bytes} (h : encode t = .ok b) :
    ∀ c ∈ t, c.isSurrogate = false := fun c hc => by
  simpa [Charset.carries] using Charset.carries_of_encode h c hc

end Utf8

end MovePack
