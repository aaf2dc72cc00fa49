/-
# Addresses in hexadecimal form

A text is an address in hexadecimal form exactly when it is a row of hexadecimal digits in either
case: one to 64 of them after the mark `0x`, or 64 without it.  The address is the number that they
denote, in 32 bytes with the most significant first.  White space between two pairs of digits is
passed over when they are read, but it takes the place of digits, so that there are fewer than 32
bytes and the text is refused, as is every other one.  A text with the mark is not shorter than the
short form of the address that it stands for.
-/
import MovePack.Proofs.Account.Address
import MovePack.Proofs.Account.Stepwise

namespace MovePack.Address

variable {a b : Address} {t digits padded : Text} {n : Nat}

/-! ## Addresses as numbers -/

/-- The number that the bytes of an address are in base 256, the most significant first. -/
def number (a : Address) : Nat := Radix.value 256 (a.bytes.map UInt8.toNat)

/-- The text is a row of digits that denote the number in base 16: one to 64 of them after the
mark, or 64 without it. -/
def IsHexadecimal (t : Text) (n : Nat) : Prop :=
  ∃ digits, (t = "0x" ++ digits ∧ 1 ≤ digits.length ∧ digits.length ≤ 64 ∨
    t = digits ∧ digits.length = 64) ∧ Hex.IsNumeral digits n

lemma spells_bytes_iff (hlength : t.length = 64) :
    Hex.Spells t a.bytes ↔ Hex.IsNumeral t a.number :=
  Hex.spells_iff_isNumeral (by rw [hlength, a.length_bytes])

/-- 64 digits denote the number of an address. -/
lemma exists_number_eq (hlength : t.length = 64) (h : Hex.IsNumeral t n) :
    ∃ a : Address, a.number = n := by
  have hpairs : t.length = 2 * 32 := hlength
  obtain ⟨bytes, hspells⟩ := Hex.exists_spells hpairs fun c hc => h.exists_hexDigit? hc
  have hbytes : bytes.length = 32 := by
    have := hspells.length_eq
    omega
  exact ⟨⟨bytes, hbytes⟩, hspells.isNumeral.unique h⟩

/-! ## Reading -/

lemma hexDigits_eq_ok_iff :
    hexDigits t = .ok padded ↔
      (∃ digits, t = "0x" ++ digits ∧ 1 ≤ digits.length ∧ digits.length ≤ 64 ∧
        padded = List.replicate (64 - digits.length) (.scalar '0') ++ digits) ∨
      t.dropPrefix? "0x" = none ∧ t.length = 64 ∧ padded = t := by
  constructor
  · intro h
    rw [hexDigits] at h
    split at h
    next digits hdigits =>
      split_ifs at h with hcount
      cases h
      exact .inl ⟨digits, Text.dropPrefix?_eq_some_iff.mp hdigits, by omega, by omega, rfl⟩
    next hnone =>
      split_ifs at h with hcount
      cases h
      exact .inr ⟨hnone, not_not.mp hcount, rfl⟩
  · rintro (⟨digits, rfl, hpos, hle, rfl⟩ | ⟨hnone, hlength, rfl⟩)
    · exact hexDigits_marked hpos hle
    · rw [hexDigits, hnone]
      exact if_neg (not_not.mpr hlength)

lemma length_of_hexDigits (h : hexDigits t = .ok padded) : padded.length = 64 := by
  obtain ⟨digits, -, -, hle, rfl⟩ | ⟨-, hlength, rfl⟩ := hexDigits_eq_ok_iff.mp h
  · rw [List.length_append, List.length_replicate]
    omega
  · exact hlength

/-- With the zeros before it a row of digits denotes the same number. -/
lemma exists_hexDigits_eq_ok_iff :
    (∃ padded, hexDigits t = .ok padded ∧ Hex.IsNumeral padded n) ↔ IsHexadecimal t n := by
  constructor
  · rintro ⟨padded, hpadded, h⟩
    obtain ⟨digits, ht, hpos, hle, rfl⟩ | ⟨-, hlength, rfl⟩ := hexDigits_eq_ok_iff.mp hpadded
    · exact ⟨digits, .inl ⟨ht, hpos, hle⟩, (Hex.isNumeral_zeros_append_iff _).mp h⟩
    · exact ⟨_, .inr ⟨rfl, hlength⟩, h⟩
  · rintro ⟨digits, ⟨rfl, hpos, hle⟩ | ⟨rfl, hlength⟩, h⟩
    · exact ⟨_, hexDigits_marked hpos hle, (Hex.isNumeral_zeros_append_iff _).mpr h⟩
    · exact ⟨_, hexDigits_bare (fun _ hc => h.exists_hexDigit? hc) hlength, h⟩

lemma ofHex_eq_ok_iff_exists_spells :
    ofHex t = .ok a ↔ ∃ padded, hexDigits t = .ok padded ∧ Hex.Spells padded a.bytes := by
  rw [ofHex_eq_ok_iff]
  refine exists_congr fun padded => and_congr_right fun hpadded => ?_
  exact Hex.decodeSpaced_eq_ok_iff (by rw [length_of_hexDigits hpadded, a.length_bytes])

lemma ofHex_eq_ok_iff_isHexadecimal : ofHex t = .ok a ↔ IsHexadecimal t a.number := by
  rw [ofHex_eq_ok_iff_exists_spells, ← exists_hexDigits_eq_ok_iff]
  refine exists_congr fun padded => and_congr_right fun hpadded => ?_
  exact spells_bytes_iff (length_of_hexDigits hpadded)

/-- Every number in hexadecimal form is that of an address, which is read. -/
lemma isHexadecimal_iff_exists : IsHexadecimal t n ↔ ∃ a, a.number = n ∧ ofHex t = .ok a := by
  constructor
  · intro h
    obtain ⟨padded, hpadded, hn⟩ := exists_hexDigits_eq_ok_iff.mpr h
    obtain ⟨a, rfl⟩ := exists_number_eq (length_of_hexDigits hpadded) hn
    exact ⟨a, rfl, ofHex_eq_ok_iff_isHexadecimal.mpr h⟩
  · rintro ⟨a, rfl, h⟩
    exact ofHex_eq_ok_iff_isHexadecimal.mp h

/-! ## Short forms -/

lemma length_significantDigits_le (zeros : Nat) (hpos : 1 ≤ digits.length) :
    (significantDigits (List.replicate zeros (.scalar '0') ++ digits)).length ≤ digits.length := by
  have hdrop : (List.replicate zeros (CodePoint.scalar '0') ++ digits).dropWhile
      (· = .scalar '0') = digits.dropWhile (· = .scalar '0') :=
    List.dropWhile_append_of_pos (by simp)
  have hle := (digits.dropWhile_suffix (· = CodePoint.scalar '0')).length_le
  rw [significantDigits, hdrop]
  split
  next => exact hpos
  next => exact hle

/-- What has been padded with zeros to the digits of an address has no fewer digits than its short
form. -/
lemma length_toShortText_le (h : ofHex ("0x" ++ digits) = .ok a) :
    a.toShortText.length ≤ (Text.ofString "0x" ++ digits).length := by
  obtain ⟨padded, hpadded, hspells⟩ := ofHex_eq_ok_iff_exists_spells.mp h
  have hlength := length_of_hexDigits hpadded
  obtain ⟨digits', hdigits, hpos, hle, rfl⟩ | ⟨hnone, -⟩ := hexDigits_eq_ok_iff.mp hpadded
  · obtain rfl := List.append_cancel_left hdigits
    -- the zeros before the digits are zeros of the long form
    have hzeros : ∀ c ∈ a.bytes.hex.take (64 - digits.length), c = .scalar '0' := by
      intro c hc
      have hsame := congrArg (List.take (64 - digits.length))
        ((Hex.spells_hex a.bytes).trans hspells.symm)
      rw [← List.map_take, ← List.map_take, List.take_left' List.length_replicate,
        List.map_replicate] at hsame
      have hdigit := List.mem_map_of_mem (f := CodePoint.hexDigit?) hc
      rw [hsame] at hdigit
      exact Hex.eq_of_hexDigit?_eq_zero (List.eq_of_mem_replicate hdigit)
    have hsplit := List.take_append_drop (64 - digits.length) a.bytes.hex
    rw [List.eq_replicate_of_mem hzeros] at hsplit
    have hrest : (a.bytes.hex.drop (64 - digits.length)).length = digits.length := by
      rw [List.length_drop, a.length_hex]
      omega
    have hshort := length_significantDigits_le (a.bytes.hex.take (64 - digits.length)).length
      (hrest ▸ hpos)
    rw [hsplit, hrest] at hshort
    rw [toShortText, List.length_append, List.length_append]
    exact Nat.add_le_add_left hshort _
  · rw [Text.dropPrefix?_eq_some_iff.mpr rfl] at hnone
    cases hnone

/-- **A text is an address in hexadecimal form, or it is refused as none.**  It is read exactly when
it is a row of one to 64 digits after the mark, or of 64 without it, and then as the address of the
number that the digits denote.  The short form is read back and is the shortest with the mark, and
different addresses have different ones. -/
theorem ofHex_faithful :
    (∀ t a, ofHex t = .ok a ↔ IsHexadecimal t a.number) ∧
    (∀ t n, IsHexadecimal t n ↔ ∃ a, a.number = n ∧ ofHex t = .ok a) ∧
    (∀ t, (∀ n, ¬ IsHexadecimal t n) ↔ ∃ fault, ofHex t = .error fault ∧
      Stepwise.ofHex t = .error ⟨.refusal .addressFormat, fault.message⟩) ∧
    (∀ a : Address, ofHex a.toShortText = .ok a ∧
      ∀ digits, ofHex ("0x" ++ digits) = .ok a →
        a.toShortText.length ≤ (Text.ofString "0x" ++ digits).length) ∧
    ∀ a b : Address, a.toShortText = b.toShortText ↔ a = b := by
  refine ⟨fun t a => ofHex_eq_ok_iff_isHexadecimal, fun t n => isHexadecimal_iff_exists,
    fun t => ⟨fun h => ?_, ?_⟩, fun a => ⟨a.ofHex_toShortText, fun _ => length_toShortText_le⟩,
    fun a b => ⟨fun h => ?_, congrArg _⟩⟩
  · rw [Stepwise.ofHex_eq]
    cases hread : ofHex t with
    | ok a => exact absurd (ofHex_eq_ok_iff_isHexadecimal.mp hread) (h a.number)
    | error fault => exact ⟨fault, rfl, rfl⟩
  · rintro ⟨fault, hfault, -⟩ n h
    obtain ⟨a, -, hread⟩ := isHexadecimal_iff_exists.mp h
    rw [hfault] at hread
    cases hread
  · have hread := a.ofHex_toShortText
    rw [h, ofHex_toShortText] at hread
    exact (Except.ok.inj hread).symm

/-- Digits in both cases after a zero, and two digits between blanks, which fill up to 31 bytes. -/
theorem ofHex_faithful_mixedCase :
    (∃ a, a.number = 0xabc ∧ ofHex "0x0aBc" = .ok a ∧ a.toShortText.length ≤ 6) ∧
      ∀ n, ¬ IsHexadecimal "0x 12 " n := by
  obtain ⟨-, -, hrefused, hshort, -⟩ := ofHex_faithful
  have hread : ofHex "0x0aBc" = .ok ⟨List.replicate 30 0 ++ [0x0a, 0xbc], rfl⟩ := by decide +kernel
  refine ⟨⟨_, by decide, hread, (hshort _).2 "0aBc" hread⟩, ?_⟩
  exact (hrefused _).mpr ⟨.wrongLength 31, by decide +kernel, by decide +kernel⟩

end MovePack.Address
