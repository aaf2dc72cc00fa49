/-
# What the text of an argument denotes

For every type the value a text stands for is said here without the reader that finds it: a row of
decimal digits denotes a number, pairs of hexadecimal digits denote bytes.  What is encoded is the
value that the text denotes, laid out as the schema of the type has it.
-/
import MovePack.Proofs.Codec.RoundTrip
import MovePack.Proofs.Radix
import MovePack.Proofs.Text.CodePoint
import MovePack.Proofs.Text.Hex
import MovePack.Script.Literal

namespace MovePack

open Codec (Schema)

/-! ## Texts of numbers -/

namespace Literal

/-- An unsigned integer in decimal notation, which a plus sign may precede. -/
def IsUnsigned (t : Text) (n : Nat) : Prop :=
  ∃ digits : List Char, digits ≠ [] ∧ (∀ c ∈ digits, c.isDigit = true) ∧
    (t = digits.map .scalar ∨ t = "+" ++ digits.map CodePoint.scalar) ∧
    n = Nat.ofDigitChars 10 digits 0

section Unsigned

variable {t : Text} {n : Nat}

lemma mapM_asciiDigit?_eq_some_iff {ds : List Nat} :
    t.mapM CodePoint.asciiDigit? = some ds ↔
      ∃ digits : List Char, (∀ c ∈ digits, c.isDigit = true) ∧ t = digits.map .scalar ∧
        ds = digits.map fun c => c.toNat - '0'.toNat := by
  induction t generalizing ds with
  | nil => simp
  | cons c t ih =>
    simp only [List.mapM_cons, Option.bind_eq_bind, Option.bind_eq_some_iff, ih,
      CodePoint.asciiDigit?_eq_some_iff, Option.pure_def, Option.some.injEq]
    constructor
    · rintro ⟨_, ⟨digit, hdigit, rfl, rfl⟩, _, ⟨digits, hdigits, rfl, rfl⟩, rfl⟩
      exact ⟨digit :: digits, List.forall_mem_cons.mpr ⟨hdigit, hdigits⟩, rfl, rfl⟩
    · rintro ⟨_ | ⟨digit, digits⟩, hdigits, ht, rfl⟩ <;> cases ht
      obtain ⟨hdigit, hdigits⟩ := List.forall_mem_cons.mp hdigits
      exact ⟨_, ⟨digit, hdigit, rfl, rfl⟩, _, ⟨digits, hdigits, rfl, rfl⟩, rfl⟩

lemma value_map_eq_ofDigitChars (digits : List Char) :
    Radix.value 10 (digits.map fun c => c.toNat - '0'.toNat) = Nat.ofDigitChars 10 digits 0 := by
  simp [Radix.value, Nat.ofDigitChars, List.foldl_map, mul_comm]

/-- Digits do not begin with a sign. -/
lemma dropPrefix?_plus_map_scalar {digits : List Char} (h : ∀ c ∈ digits, c.isDigit = true) :
    Text.dropPrefix? (digits.map .scalar) "+" = none := by
  rw [Option.eq_none_iff_forall_ne_some]
  intro rest hrest
  have hplus : CodePoint.scalar '+' ∈ digits.map CodePoint.scalar := by
    rw [Text.dropPrefix?_eq_some_iff.mp hrest]
    exact List.mem_cons_self
  obtain ⟨c, hc, heq⟩ := List.mem_map.mp hplus
  cases heq
  exact absurd (h _ hc) (by decide)

lemma digits?_eq_some_iff {ds : List Nat} :
    digits? t = some ds ↔
      ∃ digits : List Char, digits ≠ [] ∧ (∀ c ∈ digits, c.isDigit = true) ∧
        t = digits.map .scalar ∧ ds = digits.map fun c => c.toNat - '0'.toNat := by
  rw [digits?, Option.ite_none_left_eq_some, mapM_asciiDigit?_eq_some_iff, List.isEmpty_iff]
  constructor
  · rintro ⟨hne, digits, hdigits, rfl, rfl⟩
    exact ⟨digits, by simpa using hne, hdigits, rfl, rfl⟩
  · rintro ⟨digits, hne, hdigits, rfl, rfl⟩
    exact ⟨by simpa using hne, digits, hdigits, rfl, rfl⟩

lemma unsigned_eq_ok_iff_exists_digits {bound : Nat} {type : Text} :
    unsigned bound type t = .ok n ↔
      ∃ ds, digits? ((t.dropPrefix? "+").getD t) = some ds ∧ Radix.value 10 ds = n ∧
        n ≤ bound := by
  rw [unsigned]
  cases digits? ((t.dropPrefix? "+").getD t) with
  | none => simp
  | some ds =>
    simp only [Option.some.injEq, exists_eq_left']
    split_ifs with hlt
    · simp
      omega
    · simp only [Except.ok.injEq]
      constructor
      · rintro rfl
        exact ⟨rfl, by omega⟩
      · exact And.left

/-- What is read is an unsigned integer within the bound. -/
theorem unsigned_eq_ok_iff {bound : Nat} {type : Text} :
    unsigned bound type t = .ok n ↔ IsUnsigned t n ∧ n ≤ bound := by
  rw [unsigned_eq_ok_iff_exists_digits]
  constructor
  · rintro ⟨ds, hds, rfl, hle⟩
    obtain ⟨digits, hne, hdigits, ht, rfl⟩ := digits?_eq_some_iff.mp hds
    refine ⟨⟨digits, hne, hdigits, ?_, value_map_eq_ofDigitChars digits⟩, hle⟩
    cases hrest : t.dropPrefix? "+" with
    | none =>
      rw [hrest] at ht
      exact .inl ht
    | some rest =>
      rw [hrest] at ht
      exact .inr (ht ▸ Text.dropPrefix?_eq_some_iff.mp hrest)
  · rintro ⟨⟨digits, hne, hdigits, ht, rfl⟩, hle⟩
    refine ⟨_, digits?_eq_some_iff.mpr ⟨digits, hne, hdigits, ?_, rfl⟩,
      value_map_eq_ofDigitChars digits, hle⟩
    rcases ht with rfl | rfl
    · rw [dropPrefix?_plus_map_scalar hdigits]
      rfl
    · rw [Text.dropPrefix?_eq_some_iff.mpr rfl]
      rfl

lemma IsUnsigned.unique {m : Nat} (hm : IsUnsigned t m) (hn : IsUnsigned t n) : m = n := by
  have hreadm : unsigned (max m n) [] t = .ok m := unsigned_eq_ok_iff.mpr ⟨hm, le_max_left ..⟩
  have hreadn : unsigned (max m n) [] t = .ok n := unsigned_eq_ok_iff.mpr ⟨hn, le_max_right ..⟩
  exact Except.ok.inj (hreadm.symm.trans hreadn)

/-- A minus sign does not precede an unsigned integer. -/
lemma IsUnsigned.head?_ne_minus (h : IsUnsigned t n) : t.head? ≠ some (.scalar '-') := by
  obtain ⟨_ | ⟨c, digits⟩, hne, hdigits, rfl | rfl, -⟩ := h
  · exact absurd rfl hne
  · exact absurd rfl hne
  · intro hminus
    cases hminus
    exact absurd (hdigits _ List.mem_cons_self) (by decide)
  · simp [Text.ofString]

lemma ofInt_natCast (n : Nat) : Text.ofInt n = (Nat.toDigits 10 n).map CodePoint.scalar := by
  have hstring : toString (n : Int) = String.ofList (Nat.toDigits 10 n) := rfl
  rw [Text.ofInt, hstring, Text.ofString, String.toList_ofList]

/-- The text of an integer stands for this integer only. -/
theorem isUnsigned_ofInt_iff {i : Int} : IsUnsigned (Text.ofInt i) n ↔ i = n := by
  have hnat : ∀ m : Nat, IsUnsigned (Text.ofInt m) m := by
    intro m
    exact ⟨Nat.toDigits 10 m, Nat.toDigits_ne_nil,
      fun c hc => Nat.isDigit_of_mem_toDigits (by omega) (by omega) hc, .inl (ofInt_natCast m),
      Nat.ofDigitChars_ten_toDigits.symm⟩
  constructor
  · intro h
    cases i with
    | ofNat m => exact congrArg Int.ofNat ((hnat m).unique h)
    | negSucc m =>
      have hstring : toString (Int.negSucc m) = "-" ++ toString (m + 1) := rfl
      refine absurd ?_ h.head?_ne_minus
      rw [Text.ofInt, hstring, Text.ofString, String.toList_append, List.map_append]
      rfl
  · rintro rfl
    exact hnat n

end Unsigned

/-! ## Lengths of numbers -/

lemma digitValue_lt {c : Char} (h : c.isDigit = true) : c.toNat - '0'.toNat < 10 :=
  CodePoint.lt_of_asciiDigit? (CodePoint.asciiDigit?_eq_some_iff.mpr ⟨c, h, rfl, rfl⟩)

lemma length_ofInt_natCast_pos (n : Nat) : 0 < (Text.ofInt n).length := by
  rw [ofInt_natCast, List.length_map]
  exact List.length_pos_of_ne_nil Nat.toDigits_ne_nil

/-- A number is below the power of ten with as many zeros as its text has digits. -/
lemma lt_pow_length_ofInt (n : Nat) : n < 10 ^ (Text.ofInt n).length := by
  obtain ⟨ds, hds⟩ : ∃ ds, ds = (Nat.toDigits 10 n).map fun c => c.toNat - '0'.toNat := ⟨_, rfl⟩
  have hvalue : Radix.value 10 ds = n := by
    rw [hds, value_map_eq_ofDigitChars, Nat.ofDigitChars_ten_toDigits]
  have hlength : (Text.ofInt n).length = ds.length := by
    rw [ofInt_natCast, hds, List.length_map, List.length_map]
  have hlt : ∀ d ∈ ds, d < 10 := by
    rw [hds, List.forall_mem_map]
    exact fun c hc => digitValue_lt (Nat.isDigit_of_mem_toDigits (by decide) (by decide) hc)
  rw [hlength]
  exact hvalue ▸ Radix.value_lt (by decide) hlt

lemma length_ofInt_le {n k : Nat} (hk : 0 < k) (h : n < 10 ^ k) : (Text.ofInt n).length ≤ k := by
  rw [ofInt_natCast, List.length_map]
  exact Nat.toDigits_length 10 n k hk h

lemma length_of_digits? {t : Text} {ds : List Nat} (h : digits? t = some ds) :
    ds.length = t.length := by
  obtain ⟨digits, -, -, rfl, rfl⟩ := digits?_eq_some_iff.mp h
  simp

/-- Digits do not begin with a sign, so only one of them is left out. -/
lemma dropWhile_plus {t : Text} {ds : List Nat}
    (h : digits? ((t.dropPrefix? "+").getD t) = some ds) :
    t.dropWhile (· = .scalar '+') = (t.dropPrefix? "+").getD t := by
  obtain ⟨_ | ⟨c, digits⟩, hne, hdigits, ht, -⟩ := digits?_eq_some_iff.mp h
  · exact absurd rfl hne
  have hc : CodePoint.scalar c ≠ .scalar '+' := by
    rintro ⟨⟩
    exact absurd (hdigits _ List.mem_cons_self) (by decide)
  have hdigits : (((t.dropPrefix? "+").getD t).dropWhile fun x => decide (x = .scalar '+')) =
      (t.dropPrefix? "+").getD t := by
    rw [ht, List.map_cons]
    exact List.dropWhile_cons_of_neg (by simpa using hc)
  cases hrest : t.dropPrefix? "+" with
  | none =>
    rw [hrest] at hdigits
    exact hdigits
  | some rest =>
    rw [hrest] at hdigits
    rw [Text.dropPrefix?_eq_some_iff.mp hrest]
    exact (List.dropWhile_cons_of_pos (by rfl)).trans hdigits

/-- Without the zeros before them, but with one digit at least, digits denote the same number, and
there are no more of them than this number has. -/
lemma exists_digits?_significantDigits {t : Text} {ds : List Nat} (h : digits? t = some ds) :
    ∃ ds', digits? (Address.significantDigits t) = some ds' ∧
      Radix.value 10 ds' = Radix.value 10 ds ∧
      ∀ k, 0 < k → k < (Address.significantDigits t).length → 10 ^ k ≤ Radix.value 10 ds := by
  obtain ⟨digits, -, hdigits, rfl, rfl⟩ := digits?_eq_some_iff.mp h
  have hsplit := Radix.eq_replicate_append_dropWhile '0' digits
  have hdrop : (digits.map CodePoint.scalar).dropWhile (· = .scalar '0') =
      (digits.dropWhile (· = '0')).map .scalar := by
    rw [List.dropWhile_map]
    congr 2
    funext c
    simp
  have hvalue : Radix.value 10 (digits.map fun c => c.toNat - '0'.toNat) =
      Radix.value 10 ((digits.dropWhile (· = '0')).map fun c => c.toNat - '0'.toNat) := by
    conv_lhs => rw [hsplit, List.map_append, List.map_replicate]
    exact Radix.value_zeros_append _ _
  have hhead := List.head?_dropWhile_not (fun c => decide (c = '0')) digits
  have hrest : ∀ c ∈ digits.dropWhile (· = '0'), c.isDigit = true := fun c hc =>
    hdigits c ((List.dropWhile_suffix _).subset hc)
  rw [Address.significantDigits, hdrop, hvalue]
  generalize digits.dropWhile (· = '0') = rest at hhead hrest
  cases rest with
  | nil =>
    refine ⟨[0], by decide, rfl, fun k hpos hk => ?_⟩
    exact absurd hk (by simp; omega)
  | cons c rest =>
    have hne : c.toNat - '0'.toNat ≠ 0 := by
      intro hzero
      refine of_decide_eq_false hhead (Char.toNat_inj.mp ?_)
      exact Nat.le_antisymm (Nat.sub_eq_zero_iff_le.mp hzero)
        (Char.isDigit_iff_toNat.mp (hrest c List.mem_cons_self)).1
    have hlt : ∀ d ∈ (c :: rest).map fun c => c.toNat - '0'.toNat, d < 10 :=
      List.forall_mem_map.mpr fun c hc => digitValue_lt (hrest c hc)
    refine ⟨_, digits?_eq_some_iff.mpr ⟨c :: rest, by simp, hrest, rfl, rfl⟩, rfl,
      fun k _ hk => ?_⟩
    rw [← Radix.lt_length_digits_iff (by decide),
      Radix.digits_value (by decide) hlt (by simpa using hne)]
    simpa using hk

/-! ## Truth values -/

lemma bool_eq_ok_iff {t : Text} {b : Bool} :
    bool t = .ok b ↔ t = Text.ofString (if b then "true" else "false") := by
  have hne : Text.ofString "true" ≠ Text.ofString "false" := by decide
  rw [bool]
  cases b <;> split_ifs <;> simp_all

end Literal

/-! ## The values of a type -/

namespace ArgType

/-- The schema of the single values of a type. -/
def schema : ArgType → Schema
  | .signer | .address => .address
  | .bool => .bool
  | .hex => .bytes
  | .string => .text
  | .raw => .rest
  | .u8 => .uint 1
  | .u16 => .uint 2
  | .u32 => .uint 4
  | .u64 => .uint 8
  | .u128 => .uint 16
  | .u256 => .uint 32

/-- The text stands for the value. -/
def Denotes : (type : ArgType) → Text → type.schema.Carrier → Prop
  | .signer, t, (a : Address) | .address, t, (a : Address) => Address.parse t = .ok a
  | .bool, t, (b : Bool) => t = Text.ofString (if b then "true" else "false")
  | .hex, t, (b : Bytes) | .raw, t, (b : Bytes) => Hex.SpellsMarked t b
  | .string, t, (s : Text) => s = t
  | .u8, t, (n : Int) | .u16, t, (n : Int) | .u32, t, (n : Int)
  | .u64, t, (n : Int) | .u128, t, (n : Int) | .u256, t, (n : Int) =>
    ∃ m : Nat, Literal.IsUnsigned t m ∧ n = m

section Encode

variable {type : ArgType} {t : Text} {bytes : Bytes}

lemma complete_eq_ok_iff {w : Codec.Written Codec.WriteFault} :
    complete w = .ok bytes ↔ w.toExcept = .ok bytes := by
  rw [complete]
  split <;> simp_all

lemma hexBytes_eq_ok_iff : hexBytes t = .ok bytes ↔ Hex.decodeMarked t = .ok bytes := by
  rw [hexBytes]
  split <;> simp_all

lemma addressBytes_eq_ok_iff :
    addressBytes t = .ok bytes ↔ ∃ a, Address.parse t = .ok a ∧ a.bytes = bytes := by
  cases hparse : Address.parse t <;> simp [addressBytes, hparse]

lemma integerBytes_eq_ok_iff :
    type.integerBytes t = .ok bytes ↔ ∃ n, Literal.IsUnsigned t n ∧ n < 2 ^ (8 * type.width) ∧
      Bytes.littleEndian type.width n = bytes := by
  have hpos : 0 < 2 ^ (8 * type.width) := Nat.two_pow_pos _
  have hbound : ∀ n, n ≤ Nat.pow 2 (8 * type.width) - 1 ↔ n < 2 ^ (8 * type.width) :=
    fun n => Nat.le_sub_one_iff_lt hpos
  simp only [integerBytes, Except.bind_eq_ok_iff, Literal.unsigned_eq_ok_iff, hbound, and_assoc,
    pure, Except.pure, Except.ok.injEq]

/-- A text stands for one value at most. -/
theorem Denotes.unique {x y : type.schema.Carrier} (hx : type.Denotes t x)
    (hy : type.Denotes t y) : x = y := by
  have haddress : ∀ {a b : Address}, Address.parse t = .ok a → Address.parse t = .ok b → a = b :=
    fun ha hb => Except.ok.inj (ha.symm.trans hb)
  have hhex : ∀ {b c : Bytes}, Hex.SpellsMarked t b → Hex.SpellsMarked t c → b = c := by
    intro b c hb hc
    rw [← Hex.decodeMarked_eq_ok_iff] at hb hc
    exact Except.ok.inj (hb.symm.trans hc)
  have hinteger : ∀ {m n : Int}, (∃ k : Nat, Literal.IsUnsigned t k ∧ m = k) →
      (∃ k : Nat, Literal.IsUnsigned t k ∧ n = k) → m = n := by
    rintro _ _ ⟨k, hk, rfl⟩ ⟨l, hl, rfl⟩
    rw [hk.unique hl]
  cases type with
  | signer | address => exact haddress hx hy
  | bool =>
    have hx := Literal.bool_eq_ok_iff.mpr hx
    exact Except.ok.inj (hx.symm.trans (Literal.bool_eq_ok_iff.mpr hy))
  | hex | raw => exact hhex hx hy
  | string => exact hx.trans hy.symm
  | u8 | u16 | u32 | u64 | u128 | u256 => exact hinteger hx hy

/-- What is encoded is the value that the text denotes, which is within the limits of its
schema. -/
theorem exists_denotes_of_encodeText (htype : type ≠ .raw) (h : type.encodeText t = .ok bytes) :
    ∃ x, type.Denotes t x ∧ type.schema.Fits x ∧ Codec.spell (type.schema.layout x) = bytes := by
  have haddress : addressBytes t = .ok bytes → ∃ a, Address.parse t = .ok a ∧ True ∧
      Codec.spell [.plain a.bytes] = bytes := by
    intro h
    obtain ⟨a, hparse, rfl⟩ := addressBytes_eq_ok_iff.mp h
    exact ⟨a, hparse, trivial, by simp [Codec.Piece.bytes]⟩
  have hinteger : ∀ {type : ArgType}, type.integerBytes t = .ok bytes →
      ∃ n : Int, (∃ m : Nat, Literal.IsUnsigned t m ∧ n = m) ∧
        (0 ≤ n ∧ n < 2 ^ (8 * type.width)) ∧
        Codec.spell [.plain (Bytes.littleEndian type.width n.toNat)] = bytes := by
    intro type h
    obtain ⟨m, hm, hlt, rfl⟩ := integerBytes_eq_ok_iff.mp h
    exact ⟨m, ⟨m, hm, rfl⟩, ⟨by omega, by exact_mod_cast hlt⟩, by simp [Codec.Piece.bytes]⟩
  cases type with
  | signer | address => exact haddress h
  | bool =>
    obtain ⟨b, hb, hbytes⟩ := Except.bind_eq_ok_iff.mp h
    exact ⟨b, Literal.bool_eq_ok_iff.mp hb, trivial, Except.ok.inj hbytes⟩
  | hex =>
    obtain ⟨b, hb, hbytes⟩ := Except.bind_eq_ok_iff.mp h
    rw [hexBytes_eq_ok_iff, Hex.decodeMarked_eq_ok_iff] at hb
    rw [complete_eq_ok_iff] at hbytes
    have hfits := Codec.Written.length_le_of_toExcept_countedBytes hbytes
    rw [Codec.IsFormat.countedBytes.toExcept_write hfits] at hbytes
    exact ⟨b, hb, hfits, Except.ok.inj hbytes⟩
  | string =>
    rw [encodeText, complete_eq_ok_iff] at h
    have hfits := Codec.Written.fits_of_toExcept_text h
    rw [Codec.IsFormat.text.toExcept_write hfits] at h
    exact ⟨t, rfl, hfits, Except.ok.inj h⟩
  | raw => exact absurd rfl htype
  | u8 | u16 | u32 | u64 | u128 | u256 => exact hinteger h

end Encode

end ArgType

end MovePack
