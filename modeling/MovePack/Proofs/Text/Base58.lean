/-
# Base58 texts

A base58 text is a row of ones, one for every zero byte at the front, and the digits of a number
without a leading zero; white space may follow it.  Decoding therefore undoes encoding, and encoding undoes
decoding but for the white space.  Base 58 is large enough for three digits to reach what two bytes
hold, so a text cannot be much longer than the bytes it stands for.
-/
import MovePack.Proofs.Except
import MovePack.Proofs.Radix
import MovePack.Proofs.Text.Utf8
import MovePack.Proofs.Text.Visible
import MovePack.Text.Base58

namespace MovePack

namespace Base58

/-! ## Digits -/

lemma length_alphabet : alphabet.length = 58 := by decide

lemma nodup_alphabet : alphabet.Nodup := by decide

lemma isVisible_of_mem_alphabet : ∀ c ∈ alphabet, c.IsVisible := by decide

lemma digit?_eq_some_iff {c : CodePoint} {d : Nat} :
    digit? c = some d ↔ d < 58 ∧ digitChar d = c := by
  rw [digit?, List.idxOf?, List.findIdx?_eq_some_iff_getElem, length_alphabet.symm]
  constructor
  · rintro ⟨hd, hc, -⟩
    exact ⟨hd, by simpa [digitChar, hd] using hc⟩
  · rintro ⟨hd, rfl⟩
    refine ⟨hd, by simp [digitChar, hd], fun j hj => ?_⟩
    have hne := List.pairwise_iff_getElem.mp nodup_alphabet j d (by omega) hd hj
    simpa [digitChar, hd] using hne

lemma digitChar_mem_alphabet {d : Nat} (h : d < 58) : digitChar d ∈ alphabet := by
  rw [← length_alphabet] at h
  simp [digitChar, h]

lemma digitChar_eq_one_iff {d : Nat} (h : d < 58) : digitChar d = .scalar '1' ↔ d = 0 := by
  have hzero : digit? (.scalar '1') = some 0 := by decide
  constructor
  · intro hd
    have hd' : digit? (.scalar '1') = some d := digit?_eq_some_iff.mpr ⟨h, hd⟩
    exact Option.some.inj (hd'.symm.trans hzero)
  · rintro rfl
    exact (digit?_eq_some_iff.mp hzero).2

lemma digitValues_map_digitChar {ds : List Nat} (h : ∀ d ∈ ds, d < 58) :
    digitValues (ds.map digitChar) = .ok ds := by
  induction ds with
  | nil => rfl
  | cons d ds ih =>
    obtain ⟨hd, hds⟩ := List.forall_mem_cons.mp h
    rw [List.map_cons, digitValues, digit?_eq_some_iff.mpr ⟨hd, rfl⟩, ih hds]
    rfl

lemma eq_map_digitChar_of_digitValues {t : Text} {ds : List Nat} (h : digitValues t = .ok ds) :
    (∀ d ∈ ds, d < 58) ∧ t = ds.map digitChar := by
  induction t generalizing ds with
  | nil =>
    cases h
    simp
  | cons c t ih =>
    rw [digitValues] at h
    split at h
    next => cases h
    next d hd =>
      obtain ⟨hlt, rfl⟩ := digit?_eq_some_iff.mp hd
      obtain ⟨rest, hrest, rfl⟩ := Except.map_eq_ok_iff.mp h
      obtain ⟨hlt', rfl⟩ := ih hrest
      exact ⟨List.forall_mem_cons.mpr ⟨hlt, hlt'⟩, rfl⟩

/-! ## Texts and bytes -/

/-- The text of a row of ones and the digits of a number without a leading zero. -/
def spell (ones : Nat) (ds : List Nat) : Text :=
  List.replicate ones (.scalar '1') ++ ds.map digitChar

/-- The bytes of such a text: a zero byte for every one, and the bytes of the number. -/
def spelledBytes (ones : Nat) (ds : List Nat) : Bytes :=
  List.replicate ones 0 ++ (Radix.digits 256 (Radix.value 58 ds)).map UInt8.ofNat

section Spell

variable {ones : Nat} {ds : List Nat} {t : Text} {bytes : Bytes}

lemma mem_alphabet_of_mem_spell (ones : Nat) (hlt : ∀ d ∈ ds, d < 58) :
    ∀ c ∈ spell ones ds, c ∈ alphabet := by
  intro c hc
  rcases List.mem_append.mp hc with hone | hdigit
  · rw [List.eq_of_mem_replicate hone]
    decide
  · obtain ⟨d, hd, rfl⟩ := List.mem_map.mp hdigit
    exact digitChar_mem_alphabet (hlt d hd)

lemma takeWhile_spell (hlt : ∀ d ∈ ds, d < 58) (hhead : ds.head? ≠ some 0) :
    (spell ones ds).takeWhile (· = .scalar '1') = List.replicate ones (.scalar '1') := by
  have hdigits : (ds.map digitChar).takeWhile (· = .scalar '1') = [] := by
    cases ds with
    | nil => rfl
    | cons d ds =>
      have hd : digitChar d ≠ .scalar '1' := fun h =>
        hhead (by rw [List.head?_cons, (digitChar_eq_one_iff (hlt d List.mem_cons_self)).mp h])
      rw [List.map_cons, List.takeWhile_cons_of_neg (by simpa using hd)]
  rw [spell, List.takeWhile_append_of_pos (by simp), hdigits, List.append_nil]

lemma decode_spell (ones : Nat) (hlt : ∀ d ∈ ds, d < 58) (hhead : ds.head? ≠ some 0) :
    decode (spell ones ds) = .ok (spelledBytes ones ds) := by
  have hvisible : ∀ c ∈ spell ones ds, c.IsVisible := fun c hc =>
    isVisible_of_mem_alphabet c (mem_alphabet_of_mem_spell ones hlt c hc)
  have hascii : ∀ c ∈ spell ones ds, Charset.ascii.carries c = true := fun c hc =>
    (hvisible c hc).isAscii
  have hdrop : (spell ones ds).drop ones = ds.map digitChar :=
    List.drop_left' (List.length_replicate)
  simp only [decode, Text.dropEndWhile_isBlank hvisible, Charset.encode_eq_ok hascii,
    takeWhile_spell hlt hhead, List.length_replicate, hdrop, digitValues_map_digitChar hlt]
  rfl

/-- What is decoded is, without the white space that follows, such a text. -/
lemma exists_spell_of_decode (h : decode t = .ok bytes) :
    ∃ ones ds, (∀ d ∈ ds, d < 58) ∧ ds.head? ≠ some 0 ∧
      t.dropEndWhile CodePoint.isBlank = spell ones ds ∧ bytes = spelledBytes ones ds := by
  simp only [decode] at h
  generalize t.dropEndWhile CodePoint.isBlank = digits at h ⊢
  split at h
  next => cases h
  next =>
    have hsplit := Radix.eq_replicate_append_dropWhile (.scalar '1') digits
    have hdrop : digits.drop (digits.takeWhile (· = .scalar '1')).length =
        digits.dropWhile (· = .scalar '1') :=
      (congrArg (List.drop _) hsplit).trans (List.drop_left' List.length_replicate)
    rw [hdrop] at h
    obtain ⟨ds, hvalues, hbytes⟩ := Except.bind_eq_ok_iff.mp h
    obtain ⟨hlt, hdigits⟩ := eq_map_digitChar_of_digitValues hvalues
    refine ⟨_, ds, hlt, fun hhead => ?_, ?_, (Except.ok.inj hbytes).symm⟩
    · -- a leading zero would be one more of the ones
      have hfirst := List.head?_dropWhile_not (· = CodePoint.scalar '1') digits
      rw [hdigits, List.head?_map, hhead] at hfirst
      have hone := (digitChar_eq_one_iff (by omega : 0 < 58)).mpr rfl
      simp [hone] at hfirst
    · rw [spell, ← hdigits]
      exact hsplit

/-- White space and digits are all that a text holds. -/
lemma mem_alphabet_of_decode (h : decode t = .ok bytes) {c : CodePoint} (hc : c ∈ t)
    (hblank : c.isBlank = false) : c ∈ alphabet := by
  obtain ⟨ones, ds, hlt, -, ht, -⟩ := exists_spell_of_decode h
  have hkept := Text.mem_dropEndWhile_isBlank hc hblank
  rw [ht] at hkept
  exact mem_alphabet_of_mem_spell ones hlt c hkept

/-- Three digits reach what two bytes hold, so a text has few more digits than one and a half for
each byte. -/
lemma two_mul_length_le_of_decode (h : decode t = .ok bytes) :
    2 * (t.dropEndWhile CodePoint.isBlank).length ≤ 3 * bytes.length + 3 := by
  obtain ⟨ones, ds, hlt, hhead, ht, rfl⟩ := exists_spell_of_decode h
  rw [ht, spell, spelledBytes]
  simp only [List.length_append, List.length_replicate, List.length_map]
  cases hm : ds.length with
  | zero => omega
  | succ m =>
    have hdigits := Radix.digits_value (by omega) hlt hhead
    have hvalue : 58 ^ m ≤ Radix.value 58 ds := by
      rw [← Radix.lt_length_digits_iff (by omega), hdigits]
      omega
    have hpow : 256 ^ (2 * (m / 3)) ≤ Radix.value 58 ds :=
      calc 256 ^ (2 * (m / 3)) = (256 ^ 2) ^ (m / 3) := pow_mul ..
        _ ≤ (58 ^ 3) ^ (m / 3) := Nat.pow_le_pow_left (by norm_num) _
        _ = 58 ^ (3 * (m / 3)) := (pow_mul ..).symm
        _ ≤ 58 ^ m := Nat.pow_le_pow_right (by norm_num) (by omega)
        _ ≤ Radix.value 58 ds := hvalue
    have hlength := (Radix.lt_length_digits_iff (by omega)).mpr hpow
    omega

end Spell

/-- Bytes begin with zeros, and the rest of them are the digits of a number. -/
lemma exists_zeros_append (bytes : Bytes) :
    ∃ rest : Bytes, bytes = List.replicate (bytes.takeWhile (· = 0)).length 0 ++ rest ∧
      (rest.map UInt8.toNat).head? ≠ some 0 := by
  refine ⟨bytes.dropWhile (· = 0), Radix.eq_replicate_append_dropWhile 0 bytes, fun hhead => ?_⟩
  obtain ⟨b, hb, hzero⟩ := Option.map_eq_some_iff.mp (List.head?_map ▸ hhead)
  have hfirst := List.head?_dropWhile_not (· = (0 : UInt8)) bytes
  rw [hb] at hfirst
  simp [UInt8.toNat_inj.mp (show b.toNat = (0 : UInt8).toNat from hzero)] at hfirst

/-- Decoding undoes encoding. -/
theorem decode_encode (bytes : Bytes) : decode (encode bytes) = .ok bytes := by
  obtain ⟨rest, hbytes, hhead⟩ := exists_zeros_append bytes
  have hlt : ∀ n ∈ rest.map UInt8.toNat, n < 256 := by
    intro n hn
    obtain ⟨b, -, rfl⟩ := List.mem_map.mp hn
    exact b.toNat_lt
  have hvalue : Radix.value 256 (bytes.map UInt8.toNat) =
      Radix.value 256 (rest.map UInt8.toNat) := by
    rw [hbytes, List.map_append, List.map_replicate, UInt8.toNat_zero, Radix.value_zeros_append]
  have hdecode := decode_spell (bytes.takeWhile (· = 0)).length
    (fun d hd => Radix.lt_of_mem_digits (by omega) hd)
    (Radix.head?_digits_ne_zero (by omega) (Radix.value 256 (bytes.map UInt8.toNat)))
  have hrest : (rest.map UInt8.toNat).map UInt8.ofNat = rest := by
    simp [Function.comp_def]
  rw [spelledBytes, Radix.value_digits (by omega), hvalue,
    Radix.digits_value (by omega) hlt hhead, hrest, ← hbytes] at hdecode
  rw [encode, hvalue]
  exact hdecode

lemma encode_injective : Function.Injective encode := by
  intro bytes bytes' h
  have hdecode := decode_encode bytes
  rw [h, decode_encode] at hdecode
  exact (Except.ok.inj hdecode).symm

lemma encode_spelledBytes (ones : Nat) {ds : List Nat} (hlt : ∀ d ∈ ds, d < 58)
    (hhead : ds.head? ≠ some 0) : encode (spelledBytes ones ds) = spell ones ds := by
  have hdigits : ∀ d ∈ Radix.digits 256 (Radix.value 58 ds), (UInt8.ofNat d).toNat = d := by
    intro d hd
    have hlt := Radix.lt_of_mem_digits (by omega) hd
    simpa using hlt
  have hfirst := Radix.head?_digits_ne_zero (show 1 < 256 by omega) (Radix.value 58 ds)
  -- the number begins with no zero byte, so the zero bytes are those of the ones
  have hzeros : (spelledBytes ones ds).takeWhile (· = 0) = List.replicate ones 0 := by
    rw [spelledBytes, List.takeWhile_append_of_pos (by simp)]
    cases hds : Radix.digits 256 (Radix.value 58 ds) with
    | nil => simp
    | cons d rest =>
      rw [hds] at hdigits hfirst
      have hd : UInt8.ofNat d ≠ 0 := fun hzero => hfirst (by
        rw [List.head?_cons, ← hdigits d List.mem_cons_self, hzero, UInt8.toNat_zero])
      rw [List.map_cons, List.takeWhile_cons_of_neg (by simpa using hd), List.append_nil]
  have hnumber : (spelledBytes ones ds).map UInt8.toNat =
      List.replicate ones 0 ++ Radix.digits 256 (Radix.value 58 ds) := by
    rw [spelledBytes, List.map_append, List.map_replicate, UInt8.toNat_zero, List.map_map]
    exact congrArg _ ((List.map_congr_left hdigits).trans (List.map_id _))
  rw [encode, hzeros, hnumber, List.length_replicate, Radix.value_zeros_append,
    Radix.value_digits (by omega), Radix.digits_value (by omega) hlt hhead, spell]

/-- What stands for bytes is their text, which white space may follow. -/
theorem decode_eq_ok_iff {t : Text} {bytes : Bytes} :
    decode t = .ok bytes ↔ t.dropEndWhile CodePoint.isBlank = encode bytes := by
  constructor
  · intro h
    obtain ⟨ones, ds, hlt, hhead, ht, rfl⟩ := exists_spell_of_decode h
    rw [ht, encode_spelledBytes ones hlt hhead]
  · intro h
    have hdecode := decode_encode bytes
    rwa [← h, decode, Text.dropEndWhile_dropEndWhile, ← decode] at hdecode

end Base58

end MovePack
