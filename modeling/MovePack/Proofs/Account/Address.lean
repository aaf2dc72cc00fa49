/-
# Hexadecimal addresses

The long form with and without its mark and the short form all stand for 64 digits, which are read
as the bytes they were written from.  A hexadecimal address is known by its first character or by
its digits: it begins with a zero, or is a row of 64 digits.
-/
import MovePack.Account.Address
import MovePack.Proofs.Radix
import MovePack.Proofs.Text.Hex

namespace MovePack.Address

variable {a : Address} {t digits : Text}

lemma ofBytes_eq_ok_iff {bytes : Bytes} : ofBytes bytes = .ok a ↔ bytes = a.bytes := by
  rw [ofBytes]
  constructor
  · intro h
    split at h
    next => cases h; rfl
    next => cases h
  · rintro rfl
    exact dif_pos a.length_bytes

lemma ofHex_eq_ok_iff : ofHex t = .ok a ↔
    ∃ digits, hexDigits t = .ok digits ∧ Hex.decodeSpaced digits = .ok a.bytes := by
  cases hdigits : hexDigits t with
  | error fault => simp [ofHex, hdigits, bind, Except.bind]
  | ok digits =>
    cases hread : Hex.decodeSpaced digits with
    | error position => simp [ofHex, hdigits, hread, bind, Except.bind]
    | ok bytes => simp [ofHex, hdigits, hread, bind, Except.bind, ofBytes_eq_ok_iff]

/-! ## The digits of a text -/

lemma hexDigits_marked (hpos : 1 ≤ digits.length) (hle : digits.length ≤ 64) :
    hexDigits ("0x" ++ digits) =
      .ok (List.replicate (64 - digits.length) (.scalar '0') ++ digits) := by
  rw [hexDigits, Text.dropPrefix?_eq_some_iff.mpr rfl]
  exact if_neg (by omega)

lemma hexDigits_bare (h : ∀ c ∈ t, ∃ d, c.hexDigit? = some d) (hlength : t.length = 64) :
    hexDigits t = .ok t := by
  rw [hexDigits, Hex.dropPrefix?_of_forall_hexDigit? h]
  exact if_neg (not_not.mpr hlength)

/-- What is read as a hexadecimal address begins with a zero or is a row of 64 digits. -/
theorem head?_or_forall_hexDigit?_of_ofHex (h : ofHex t = .ok a) :
    t.head? = some (.scalar '0') ∨ t.length = 64 ∧ ∀ c ∈ t, ∃ d, c.hexDigit? = some d := by
  obtain ⟨digits, hdigits, hread⟩ := ofHex_eq_ok_iff.mp h
  rw [hexDigits] at hdigits
  split at hdigits
  next rest hrest =>
    left
    rw [Text.dropPrefix?_eq_some_iff.mp hrest]
    rfl
  next =>
    right
    split_ifs at hdigits with hlength
    cases hdigits
    refine ⟨not_not.mp hlength, (Hex.length_of_decodeSpaced hread).2 ?_⟩
    rw [a.length_bytes, not_not.mp hlength]

/-! ## Written addresses -/

lemma length_hex (a : Address) : a.bytes.hex.length = 64 := by
  rw [Hex.length_hex, a.length_bytes]

lemma length_significantDigits_pos (digits : Text) : 1 ≤ (significantDigits digits).length := by
  rw [significantDigits]
  split
  next => simp
  next hne => exact List.length_pos_iff.mpr hne

/-- The significant digits lack zeros only. -/
lemma exists_zeros_append_significantDigits (hpos : 1 ≤ digits.length) :
    ∃ zeros, digits = List.replicate zeros (.scalar '0') ++ significantDigits digits := by
  have hsplit := Radix.eq_replicate_append_dropWhile (.scalar '0') digits
  rw [significantDigits]
  split
  next hnone =>
    -- the last of the zeros is kept
    rw [hnone, List.append_nil] at hsplit
    have hlength := congrArg List.length hsplit
    rw [List.length_replicate] at hlength
    refine ⟨digits.length - 1, ?_⟩
    rw [← List.replicate_succ', Nat.sub_add_cancel hpos, hlength]
    exact hsplit
  next => exact ⟨_, hsplit⟩

/-- The digits of the long form are read back. -/
theorem ofHex_hex (a : Address) : ofHex a.bytes.hex = .ok a :=
  ofHex_eq_ok_iff.mpr ⟨_,
    hexDigits_bare (fun _ hc => Hex.exists_hexDigit?_of_mem_hex hc) a.length_hex,
    Hex.decodeSpaced_hex _⟩

/-- The long form is read back. -/
theorem ofHex_toText (a : Address) : ofHex a.toText = .ok a := by
  have hlength := a.length_hex
  refine ofHex_eq_ok_iff.mpr ⟨a.bytes.hex, ?_, Hex.decodeSpaced_hex _⟩
  rw [toText, hexDigits_marked (by omega) (by omega), hlength]
  rfl

/-- The short form is read back. -/
theorem ofHex_toShortText (a : Address) : ofHex a.toShortText = .ok a := by
  have hlength := a.length_hex
  have hpos := length_significantDigits_pos a.bytes.hex
  have hdigits : 1 ≤ a.bytes.hex.length := by omega
  obtain ⟨zeros, hzeros⟩ := exists_zeros_append_significantDigits hdigits
  have hsum := congrArg List.length hzeros
  rw [List.length_append, List.length_replicate, hlength] at hsum
  refine ofHex_eq_ok_iff.mpr ⟨a.bytes.hex, ?_, Hex.decodeSpaced_hex _⟩
  rw [toShortText, hexDigits_marked hpos (by omega),
    show 64 - (significantDigits a.bytes.hex).length = zeros by omega, ← hzeros]

end MovePack.Address
