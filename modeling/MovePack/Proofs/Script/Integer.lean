/-
# Integer literals

A text is an integer literal when it is a row of decimal digits, which a plus sign may precede.  It
is read within a bound exactly when the number that it denotes does not exceed the bound, however
many digits it has and however many of them are zeros in front, and every other text is refused.
The reading compares numbers of digits before it reads a number, so that a long literal is refused
and does not stop it for another cause.  An integer type has as its bound the largest number that
its bytes hold, so what is read is laid out whole.
-/
import MovePack.Proofs.Script.Containment

namespace MovePack

namespace Literal

variable {bound : Nat} {type t : Text}

/-- A text is a literal within the bound, one that exceeds it, or none, and each is answered in its
own way. -/
lemma unsigned_cases (bound : Nat) (type t : Text) :
    (∃ n, IsUnsigned t n ∧ n ≤ bound ∧ unsigned bound type t = .ok n) ∨
      (∃ n, IsUnsigned t n ∧ bound < n ∧ unsigned bound type t = .error (.tooLarge type t)) ∨
      (∀ n, ¬ IsUnsigned t n) ∧ unsigned bound type t = .error (.invalidDigit type t) := by
  by_cases hnumber : ∃ n, IsUnsigned t n
  · obtain ⟨n, hn⟩ := hnumber
    by_cases hle : n ≤ bound
    · exact .inl ⟨n, hn, hle, unsigned_eq_ok_iff.mpr ⟨hn, hle⟩⟩
    · -- the digits that a bound lets through are digits for every bound
      have hread : unsigned n type t = .ok n := unsigned_eq_ok_iff.mpr ⟨hn, le_refl n⟩
      obtain ⟨ds, hds, hvalue, -⟩ := unsigned_eq_ok_iff_exists_digits.mp hread
      refine .inr (.inl ⟨n, hn, Nat.lt_of_not_le hle, ?_⟩)
      rw [unsigned, hds]
      exact if_pos (hvalue ▸ Nat.lt_of_not_le hle)
  · refine .inr (.inr ⟨fun n hn => hnumber ⟨n, hn⟩, ?_⟩)
    cases hdigits : digits? ((t.dropPrefix? "+").getD t) with
    | none => rw [unsigned, hdigits]
    | some ds =>
      have hread : unsigned (Radix.value 10 ds) type t = .ok (Radix.value 10 ds) :=
        unsigned_eq_ok_iff_exists_digits.mpr ⟨ds, hdigits, rfl, le_rfl⟩
      exact absurd ⟨_, (unsigned_eq_ok_iff.mp hread).1⟩ hnumber

lemma unsigned_of_lt {n : Nat} (hn : IsUnsigned t n) (hlt : bound < n) (type : Text) :
    unsigned bound type t = .error (.tooLarge type t) := by
  obtain ⟨m, hm, hle, -⟩ | ⟨-, -, -, hread⟩ | ⟨hnone, -⟩ := unsigned_cases bound type t
  · exact absurd (hm.unique hn ▸ hle) (Nat.not_le.mpr hlt)
  · exact hread
  · exact absurd hn (hnone n)

lemma unsigned_of_forall_not (h : ∀ n, ¬ IsUnsigned t n) (bound : Nat) (type : Text) :
    unsigned bound type t = .error (.invalidDigit type t) := by
  obtain ⟨n, hn, -⟩ | ⟨n, hn, -⟩ | ⟨-, hread⟩ := unsigned_cases bound type t
  · exact absurd hn (h n)
  · exact absurd hn (h n)
  · exact hread

end Literal

namespace ArgType

variable {type : ArgType} {t : Text} {bytes : Bytes}

/-- The bytes of an integer type are as many as its width, and hold the number that the text
denotes. -/
lemma integerBytes_eq_ok_iff_isUnsigned :
    type.integerBytes t = .ok bytes ↔
      bytes.length = type.width ∧ Literal.IsUnsigned t (Bytes.ofLittleEndian bytes) := by
  rw [integerBytes_eq_ok_iff]
  constructor
  · rintro ⟨n, hn, hlt, rfl⟩
    rw [Bytes.ofLittleEndian_littleEndian hlt]
    exact ⟨Bytes.length_littleEndian _ _, hn⟩
  · rintro ⟨hlength, hn⟩
    have hlt := Bytes.ofLittleEndian_lt bytes
    rw [hlength] at hlt
    exact ⟨_, hn, hlt, hlength ▸ Bytes.littleEndian_ofLittleEndian bytes⟩

lemma exists_integerBytes_eq_ok_iff :
    (∃ bytes, type.integerBytes t = .ok bytes) ↔
      ∃ n, Literal.IsUnsigned t n ∧ n < 2 ^ (8 * type.width) := by
  simp only [integerBytes_eq_ok_iff]
  constructor
  · rintro ⟨_, n, hn, hlt, -⟩
    exact ⟨n, hn, hlt⟩
  · rintro ⟨n, hn, hlt⟩
    exact ⟨_, n, hn, hlt, rfl⟩

lemma kind_of_integerBytes {fault : ArgFault} (h : type.integerBytes t = .error fault) :
    fault.kind = .parse := by
  rw [integerBytes] at h
  obtain ⟨n, -, -, hread⟩ | ⟨n, -, -, hread⟩ | ⟨-, hread⟩ :=
    Literal.unsigned_cases (Nat.pow 2 (8 * type.width) - 1) type.name t
  all_goals
    rw [hread] at h
    cases h
  · rfl
  · rfl

end ArgType

namespace Argument.Stepwise

variable {bound width : Nat} {name t : Text} {type : ArgType}

lemma lt_pow_maxDigits (h : (Nat.digits 10 bound).length ≤ 4300) : bound < 10 ^ Json.maxDigits := by
  have hlt : bound < 10 ^ (Nat.digits 10 bound).length := Nat.lt_base_pow_length_digits (by decide)
  exact hlt.trans_le (Nat.pow_le_pow_right (by decide) h)

lemma encodeText_of_mem_widths (h : (type, width) ∈ widths) (t : Text) :
    type.encodeText t = type.integerBytes t ∧ type.width = width := by
  simp only [widths, List.mem_cons, Prod.mk.injEq, List.not_mem_nil, or_false] at h
  obtain ⟨rfl, rfl⟩ | ⟨rfl, rfl⟩ | ⟨rfl, rfl⟩ | ⟨rfl, rfl⟩ | ⟨rfl, rfl⟩ | ⟨rfl, rfl⟩ := h
  all_goals exact ⟨rfl, rfl⟩

/-- What is not the bytes of an integer is refused as malformed. -/
lemma exists_error_integerBytes_iff :
    (∃ message, (type.integerBytes t).mapError Stop.ofFault = .error ⟨.refusal .parse, message⟩) ↔
      ∀ n, Literal.IsUnsigned t n → 2 ^ (8 * type.width) ≤ n := by
  cases hread : type.integerBytes t with
  | ok bytes =>
    obtain ⟨n, hn, hlt⟩ := ArgType.exists_integerBytes_eq_ok_iff.mp ⟨bytes, hread⟩
    refine iff_of_false (by simp [Except.mapError]) fun h => ?_
    exact absurd (h n hn) (Nat.not_le.mpr hlt)
  | error fault =>
    have hkind := ArgType.kind_of_integerBytes hread
    refine iff_of_true ⟨fault.message, ?_⟩ fun n hn => Nat.not_lt.mp fun hlt => ?_
    · rw [Except.mapError, Stop.ofFault, hkind]
    · obtain ⟨bytes, hbytes⟩ := ArgType.exists_integerBytes_eq_ok_iff.mpr ⟨n, hn, hlt⟩
      cases hread.symm.trans hbytes

/-- **Integer literals are read within their bound, and no others.**  Within a bound that can be
shown, a text is read as a number exactly when it is a literal that denotes the number and the
number does not exceed the bound; a literal that exceeds it and a text that is no literal are
refused, each in its own words.  The bytes of an integer type are as many as its width and hold the
number that the text denotes, and there are such bytes unless the number is too large for them. -/
theorem integers_exact :
    (∀ bound name t, (Nat.digits 10 bound).length ≤ 4300 →
      unsigned bound name t = (Literal.unsigned bound name t).mapError Stop.ofFault ∧
      (∀ n, unsigned bound name t = .ok n ↔ Literal.IsUnsigned t n ∧ n ≤ bound) ∧
      (∀ n, Literal.IsUnsigned t n → bound < n →
        unsigned bound name t = .error ⟨.refusal .parse, (ArgFault.tooLarge name t).message⟩) ∧
      ((∀ n, ¬ Literal.IsUnsigned t n) →
        unsigned bound name t = .error ⟨.refusal .parse, (ArgFault.invalidDigit name t).message⟩)) ∧
    ∀ type width t, (type, width) ∈ widths →
      text type t = (type.encodeText t).mapError Stop.ofFault ∧
      (∀ bytes, text type t = .ok bytes ↔
        bytes.length = width ∧ Literal.IsUnsigned t (Bytes.ofLittleEndian bytes)) ∧
      ((∃ message, text type t = .error ⟨.refusal .parse, message⟩) ↔
        ∀ n, Literal.IsUnsigned t n → 2 ^ (8 * width) ≤ n) := by
  refine ⟨fun bound name t hbound => ?_, fun type width t hwidth => ?_⟩
  · have hread := unsigned_eq (lt_pow_maxDigits hbound) name t
    refine ⟨hread, fun n => ?_, fun n hn hlt => ?_, fun h => ?_⟩
    · rw [hread, Except.mapError_eq_ok_iff, Literal.unsigned_eq_ok_iff]
    · rw [hread, Literal.unsigned_of_lt hn hlt]
      rfl
    · rw [hread, Literal.unsigned_of_forall_not h]
      rfl
  · obtain ⟨hinteger, rfl⟩ := encodeText_of_mem_widths hwidth t
    rw [text_eq, hinteger]
    refine ⟨rfl, fun bytes => ?_, exists_error_integerBytes_iff⟩
    rw [Except.mapError_eq_ok_iff, ArgType.integerBytes_eq_ok_iff_isUnsigned]

/-- The largest number of two bytes behind a sign and zeros, and the number after it. -/
theorem integers_exact_twoBytes :
    unsigned 65535 "u16" "+00065535" = .ok 65535 ∧ text .u16 "+00065535" = .ok [255, 255] ∧
      unsigned 65535 "u16" "65536" =
        .error ⟨.refusal .parse, "number too large to fit in target type u16: 65536"⟩ ∧
      ∃ message, text .u16 "65536" = .error ⟨.refusal .parse, message⟩ := by
  have hdigits : (Nat.digits 10 65535).length ≤ 4300 := by norm_num
  have hmem : (ArgType.u16, 2) ∈ widths := by decide
  have hlargest : Literal.IsUnsigned "+00065535" 65535 :=
    ⟨['0', '0', '0', '6', '5', '5', '3', '5'], by decide, List.all_eq_true.mp rfl, .inr rfl, rfl⟩
  have hlarge : Literal.IsUnsigned "65536" 65536 :=
    ⟨['6', '5', '5', '3', '6'], by decide, List.all_eq_true.mp rfl, .inl rfl, rfl⟩
  obtain ⟨hunsigned, htext⟩ := integers_exact
  refine ⟨((hunsigned _ _ _ hdigits).2.1 _).mpr ⟨hlargest, le_rfl⟩,
    ((htext _ _ _ hmem).2.1 _).mpr ⟨rfl, hlargest⟩,
    (hunsigned _ _ _ hdigits).2.2.1 _ hlarge (by decide), (htext _ _ _ hmem).2.2.mpr ?_⟩
  intro n hn
  exact (hlarge.unique hn).le

end Argument.Stepwise

end MovePack
