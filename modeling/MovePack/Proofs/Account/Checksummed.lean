/-
# The two forms of an address

No text is an address in both forms: a hexadecimal one begins with a zero, which base 58 does not
have, or has 64 digits, and base58 text of that length stands for more bytes than a checksummed
address has.  The order in which the forms are tried is therefore of no importance, and every way
to write an address is read back.
-/
import MovePack.Proofs.Account.Spelling

namespace MovePack.Address

variable {a : Address} {t : Text}

/-- A text in checksummed form stands for at most 36 bytes. -/
lemma length_le_of_ofChecksummed (h : ofChecksummed t = .ok a) :
    ∃ bytes, Base58.decode t = .ok bytes ∧ bytes.length ≤ 36 := by
  obtain ⟨network, hnetwork, ht⟩ := ofChecksummed_eq_ok_iff.mp h
  refine ⟨_, Base58.decode_eq_ok_iff.mpr ht, ?_⟩
  have hlength := hnetwork.length_le
  simp only [List.length_append, length_checksum, a.length_bytes]
  omega

/-! ## Either form -/

/-- Reads an address in either form, the hexadecimal one first. -/
def parseHexFirst (t : Text) : Except Fault Address :=
  match ofHex t with
  | .ok a => .ok a
  | .error hex =>
    match ofChecksummed t with
    | .ok a => .ok a
    | .error checksummed => .error (.neither hex checksummed)

/-- No text is an address in both forms. -/
lemma ofHex_ne_ok_of_ofChecksummed {b : Address} (h : ofChecksummed t = .ok a) :
    ofHex t ≠ .ok b := by
  intro hhex
  obtain ⟨bytes, hdecode, hshort⟩ := length_le_of_ofChecksummed h
  rcases head?_or_forall_hexDigit?_of_ofHex hhex with hzero | ⟨hlength, hdigits⟩
  · have hmem := Base58.mem_alphabet_of_decode hdecode (List.mem_of_mem_head? hzero)
      (CodePoint.IsVisible.isBlank (by decide))
    exact absurd hmem (by decide)
  · have hvisible : ∀ c ∈ t, c.IsVisible := by
      intro c hc
      obtain ⟨d, hd⟩ := hdigits c hc
      exact CodePoint.isVisible_of_hexDigit? hd
    have hle := Base58.two_mul_length_le_of_decode hdecode
    rw [Text.dropEndWhile_isBlank hvisible, hlength] at hle
    omega

lemma parse_eq_parseHexFirst (t : Text) : parse t = parseHexFirst t := by
  rw [parse, parseHexFirst]
  cases hchecksummed : ofChecksummed t with
  | error fault => rfl
  | ok a =>
    cases hhex : ofHex t with
    | error fault => rfl
    | ok b => exact absurd hhex (ofHex_ne_ok_of_ofChecksummed hchecksummed)

lemma parse_of_ofHex (h : ofHex t = .ok a) : parse t = .ok a := by
  rw [parse_eq_parseHexFirst, parseHexFirst, h]

lemma parse_of_ofChecksummed (h : ofChecksummed t = .ok a) : parse t = .ok a := by
  rw [parse, h]

/-- **No text is an address in both forms.**  It is therefore the same, down to the refusal, which
form is tried first, and the long form with and without its mark, the short form and the
checksummed form for every network are all read back. -/
theorem parse_text_forms :
    (∀ (t : Text) (a b : Address), ¬(ofChecksummed t = .ok a ∧ ofHex t = .ok b)) ∧
      (∀ t : Text, parse t = parseHexFirst t) ∧
      ∀ a : Address,
        parse a.toText = .ok a ∧ parse a.bytes.hex = .ok a ∧ parse a.toShortText = .ok a ∧
          ∀ network : Int, 0 ≤ network → network < 16384 →
            ∃ t, a.toChecksummed network = .ok t ∧ parse t = .ok a := by
  refine ⟨fun t a b ⟨hchecksummed, hhex⟩ => ofHex_ne_ok_of_ofChecksummed hchecksummed hhex,
    parse_eq_parseHexFirst, fun a => ⟨parse_of_ofHex a.ofHex_toText, parse_of_ofHex a.ofHex_hex,
      parse_of_ofHex a.ofHex_toShortText, fun network hlow hhigh => ?_⟩⟩
  refine ⟨checksummedText network.toNat a, ?_, ?_⟩
  · rw [toChecksummed, if_neg (by omega), if_pos hhigh]
  · exact parse_of_ofChecksummed (ofChecksummed_checksummedText (by omega) a)

/-- The address whose short form is `0x1`, also for the network with the highest number. -/
theorem parse_text_forms_one :
    let one : Address := ⟨List.replicate 31 0 ++ [1], rfl⟩
    one.toShortText = "0x1" ∧ parse "0x1" = .ok one ∧
      ∃ t, one.toChecksummed 16383 = .ok t ∧ parse t = .ok one := by
  intro one
  obtain ⟨-, -, hshort, hchecksummed⟩ := parse_text_forms.2.2 one
  have htext : one.toShortText = "0x1" := by decide
  exact ⟨htext, htext ▸ hshort, hchecksummed 16383 (by decide) (by decide)⟩

end MovePack.Address
