/-
# Hexadecimal texts

Reading pairs of digits undoes writing them.  Where white space may stand between the pairs, a text
that gives half as many bytes as it has characters holds digits only, and these spell the bytes.
The number that digits denote in base 16 is that of the bytes they spell in base 256.
-/
import Mathlib.Data.List.Forall2
import MovePack.Proofs.Except
import MovePack.Proofs.Radix
import MovePack.Proofs.Text.Visible
import MovePack.Text.Hex

namespace MovePack

lemma CodePoint.isVisible_and_lt_of_hexDigit? {c : CodePoint} {d : Nat}
    (h : c.hexDigit? = some d) : c.IsVisible ∧ d < 16 := by
  cases c with
  | surrogate offset => cases h
  | scalar c =>
    simp only [hexDigit?, Char.le_def, UInt32.le_iff_toNat_le, Char.toNat_val] at h
    have h0 : '0'.toNat = 48 := rfl
    have h9 : '9'.toNat = 57 := rfl
    have ha : 'a'.toNat = 97 := rfl
    have hf : 'f'.toNat = 102 := rfl
    have hA : 'A'.toNat = 65 := rfl
    have hF : 'F'.toNat = 70 := rfl
    simp only [IsVisible, toNat]
    split_ifs at h <;> simp only [Option.some.injEq] at h <;> omega

lemma CodePoint.isVisible_of_hexDigit? {c : CodePoint} {d : Nat} (h : c.hexDigit? = some d) :
    c.IsVisible :=
  (isVisible_and_lt_of_hexDigit? h).1

lemma Text.dropPrefix?_eq_some_iff {t rest : Text} {beginning : String} :
    t.dropPrefix? beginning = some rest ↔ t = (beginning : Text) ++ rest := by
  have hlength : (ofString beginning).length = beginning.length := by
    rw [ofString, List.length_map, String.length_toList]
  rw [dropPrefix?, startsWith, ← hlength, Option.ite_none_right_eq_some, List.isPrefixOf_iff_prefix]
  constructor
  · rintro ⟨⟨rest', rfl⟩, hdrop⟩
    rw [List.drop_left] at hdrop
    rw [Option.some.inj hdrop]
  · rintro rfl
    exact ⟨List.prefix_append .., by rw [List.drop_left]⟩

/-- What follows a part that may be missing is an end of the text. -/
lemma Text.suffix_getD {α : Type} {t : Text} {found : Option (α × Text)} (missing : α)
    (h : ∀ {a rest}, found = some (a, rest) → rest <:+ t) :
    (found.getD (missing, t)).2 <:+ t := by
  cases hfound : found with
  | none => exact List.suffix_rfl
  | some r => exact h hfound

namespace Hex

lemma hexDigit?_hexDigitChar : ∀ d < 16,
    (CodePoint.scalar (hexDigitChar d)).hexDigit? = some d := by decide

lemma isSpace_of_isVisible {c : CodePoint} (h : c.IsVisible) : isSpace c = false := by
  obtain ⟨hlow, hhigh⟩ := h
  simp [isSpace]
  omega

/-- Every character of written bytes is a digit. -/
lemma exists_hexDigit?_of_mem_hex {bytes : Bytes} {c : CodePoint} (h : c ∈ bytes.hex) :
    ∃ d, c.hexDigit? = some d := by
  obtain ⟨b, -, hc⟩ := List.mem_flatMap.mp h
  have hb := b.toNat_lt
  simp only [List.mem_cons, List.not_mem_nil, or_false] at hc
  rcases hc with rfl | rfl
  · exact ⟨_, hexDigit?_hexDigitChar _ (by omega)⟩
  · exact ⟨_, hexDigit?_hexDigitChar _ (by omega)⟩

lemma length_hex (bytes : Bytes) : bytes.hex.length = 2 * bytes.length := by
  simp [Bytes.hex, Nat.mul_comm]

/-- A pair of digits in front of a spaced row. -/
lemma spacedFrom_cons_cons {position high low : Nat} {a b : CodePoint} {rest : Text}
    (ha : a.hexDigit? = some high) (hb : b.hexDigit? = some low) :
    spacedFrom position (a :: b :: rest) =
      (spacedFrom (position + 2) rest).map (UInt8.ofNat (high * 16 + low) :: ·) := by
  have hspace := isSpace_of_isVisible (CodePoint.isVisible_of_hexDigit? ha)
  simp [spacedFrom, hspace, ha, hb]

/-- Two digits are read for each byte, so there is nothing else where that makes all of the text. -/
lemma length_of_spacedFrom {position : Nat} {t : Text} {bytes : Bytes}
    (h : spacedFrom position t = .ok bytes) :
    2 * bytes.length ≤ t.length ∧
      (2 * bytes.length = t.length → ∀ c ∈ t, ∃ d, c.hexDigit? = some d) := by
  fun_induction spacedFrom position t generalizing bytes with
  | case1 =>
    cases h
    simp
  | case2 position a rest hspace ih =>
    obtain ⟨hle, -⟩ := ih h
    exact ⟨by simp; omega, fun heq => by simp at heq; omega⟩
  | case3 => cases h
  | case4 => cases h
  | case5 => cases h
  | case6 position a hspace high b rest ha low hb ih =>
    obtain ⟨bytes', hread, rfl⟩ := Except.map_eq_ok_iff.mp h
    obtain ⟨hle, hdigits⟩ := ih hread
    refine ⟨by simp; omega, fun heq => ?_⟩
    have hrest := hdigits (by simp at heq; omega)
    rw [List.forall_mem_cons, List.forall_mem_cons]
    exact ⟨⟨_, ha⟩, ⟨_, hb⟩, hrest⟩

lemma length_of_decodeSpaced {t : Text} {bytes : Bytes} (h : decodeSpaced t = .ok bytes) :
    2 * bytes.length ≤ t.length ∧
      (2 * bytes.length = t.length → ∀ c ∈ t, ∃ d, c.hexDigit? = some d) := by
  rw [decodeSpaced] at h
  split at h
  next => cases h
  next => exact length_of_spacedFrom h

/-- A row of digits does not begin with the mark. -/
lemma dropPrefix?_of_forall_hexDigit? {t : Text}
    (h : ∀ c ∈ t, ∃ d, c.hexDigit? = some d) : t.dropPrefix? "0x" = none := by
  have hx : (CodePoint.scalar 'x').hexDigit? = none := by decide
  rw [Option.eq_none_iff_forall_ne_some]
  intro rest hrest
  obtain ⟨d, hd⟩ := h (.scalar 'x') (by
    rw [Text.dropPrefix?_eq_some_iff.mp hrest]
    simp [Text.ofString])
  rw [hx] at hd
  cases hd

/-! ## Strict rows of digits -/

/-- The text is two digits for every byte, in either case. -/
def Spells (t : Text) (bytes : Bytes) : Prop :=
  t.map CodePoint.hexDigit? =
    bytes.flatMap fun b => [some (b.toNat / 16), some (b.toNat % 16)]

/-- The text is such a row, with or without the mark `0x` before it. -/
def SpellsMarked (t : Text) (bytes : Bytes) : Prop :=
  ∃ digits, (t = digits ∨ t = "0x" ++ digits) ∧ Spells digits bytes

section Spells

variable {t : Text} {bytes : Bytes}

/-- Only digits are spelled. -/
lemma Spells.exists_hexDigit? (h : Spells t bytes) {c : CodePoint} (hc : c ∈ t) :
    ∃ d, c.hexDigit? = some d := by
  have hmem : c.hexDigit? ∈ t.map CodePoint.hexDigit? := List.mem_map_of_mem hc
  rw [h] at hmem
  obtain ⟨b, -, hb⟩ := List.mem_flatMap.mp hmem
  simp only [List.mem_cons, List.not_mem_nil, or_false] at hb
  rcases hb with hb | hb <;> exact ⟨_, hb⟩

lemma Spells.isAscii (h : Spells t bytes) {c : CodePoint} (hc : c ∈ t) : c.isAscii = true := by
  obtain ⟨d, hd⟩ := h.exists_hexDigit? hc
  exact (CodePoint.isVisible_of_hexDigit? hd).isAscii

lemma Spells.length_eq (h : Spells t bytes) : t.length = 2 * bytes.length := by
  have hlength := congrArg List.length h
  simpa [Nat.mul_comm] using hlength

lemma spells_cons_cons_iff {a b : CodePoint} {byte : UInt8} :
    Spells (a :: b :: t) (byte :: bytes) ↔
      a.hexDigit? = some (byte.toNat / 16) ∧ b.hexDigit? = some (byte.toNat % 16) ∧
        Spells t bytes := by
  simp [Spells]

/-- The byte that two digits spell is made of them. -/
lemma spells_ofNat_cons_iff {a b : CodePoint} {high low : Nat} (ha : a.hexDigit? = some high)
    (hb : b.hexDigit? = some low) :
    Spells (a :: b :: t) (UInt8.ofNat (high * 16 + low) :: bytes) ↔ Spells t bytes := by
  have hhigh := (CodePoint.isVisible_and_lt_of_hexDigit? ha).2
  have hlow := (CodePoint.isVisible_and_lt_of_hexDigit? hb).2
  have hbyte : (UInt8.ofNat (high * 16 + low)).toNat = high * 16 + low := by
    simp
    omega
  have hdiv : (high * 16 + low) / 16 = high := by omega
  have hmod : (high * 16 + low) % 16 = low := by omega
  rw [spells_cons_cons_iff, hbyte, ha, hb, hdiv, hmod]
  simp

/-- Two digits spell the first byte. -/
lemma Spells.exists_cons_cons {byte : UInt8} (h : Spells t (byte :: bytes)) :
    ∃ a b rest, t = a :: b :: rest ∧ a.hexDigit? = some (byte.toNat / 16) ∧
      b.hexDigit? = some (byte.toNat % 16) ∧ Spells rest bytes := by
  have hlength := h.length_eq
  match t, hlength with
  | a :: b :: rest, _ => exact ⟨a, b, rest, rfl, spells_cons_cons_iff.mp h⟩

/-- An even number of digits spells bytes. -/
lemma exists_spells {count : Nat} (hlength : t.length = 2 * count)
    (h : ∀ c ∈ t, ∃ d, c.hexDigit? = some d) : ∃ bytes, Spells t bytes := by
  induction count generalizing t with
  | zero =>
    obtain rfl := List.length_eq_zero_iff.mp hlength
    exact ⟨[], rfl⟩
  | succ count ih =>
    match t, hlength with
    | a :: b :: rest, hlength =>
      simp only [List.forall_mem_cons] at h
      obtain ⟨⟨high, ha⟩, ⟨low, hb⟩, hrest⟩ := h
      obtain ⟨bytes, hbytes⟩ := ih (by simp at hlength; omega) hrest
      exact ⟨_, (spells_ofNat_cons_iff ha hb).mpr hbytes⟩

/-- What pairs of digits give is what they spell. -/
lemma pairs?_eq_some_iff : pairs? t = some bytes ↔ Spells t bytes := by
  constructor
  · intro h
    fun_induction pairs? t generalizing bytes with
    | case1 =>
      cases h
      rfl
    | case2 => cases h
    | case3 a b rest high low bytes' hrest hb ha ih =>
      cases h
      exact (spells_ofNat_cons_iff ha hb).mpr (ih hrest)
    | case4 => cases h
  · intro h
    induction bytes generalizing t with
    | nil =>
      obtain rfl := List.length_eq_zero_iff.mp h.length_eq
      rfl
    | cons byte bytes ih =>
      obtain ⟨a, b, rest, rfl, ha, hb, hrest⟩ := h.exists_cons_cons
      have hbyte : byte.toNat / 16 * 16 + byte.toNat % 16 = byte.toNat := by omega
      rw [pairs?, ha, hb, ih hrest]
      simp [hbyte]

/-- What is read strictly is two digits for every byte. -/
theorem decode_eq_ok_iff : decode t = .ok bytes ↔ Spells t bytes := by
  rw [← pairs?_eq_some_iff, decode]
  constructor
  · intro h
    split_ifs at h
    split at h
    next hpairs =>
      cases h
      exact hpairs
    next => cases h
  · intro h
    have hspells := pairs?_eq_some_iff.mp h
    have hlength := hspells.length_eq
    have hascii : t.all CodePoint.isAscii = true :=
      List.all_eq_true.mpr fun c hc => hspells.isAscii hc
    rw [hascii, if_neg (by simp), if_neg (by omega), h]

/-- What is read with the mark or without is such a row. -/
theorem decodeMarked_eq_ok_iff : decodeMarked t = .ok bytes ↔ SpellsMarked t bytes := by
  have hmark : decodeMarked t = .ok bytes ↔ Spells ((t.dropPrefix? "0x").getD t) bytes := by
    rw [← decode_eq_ok_iff, decodeMarked]
    split <;> simp_all
  rw [hmark]
  constructor
  · intro h
    cases hrest : t.dropPrefix? "0x" with
    | none =>
      rw [hrest] at h
      exact ⟨t, .inl rfl, h⟩
    | some rest =>
      rw [hrest] at h
      exact ⟨rest, .inr (Text.dropPrefix?_eq_some_iff.mp hrest), h⟩
  · rintro ⟨digits, rfl | rfl, h⟩
    · rw [dropPrefix?_of_forall_hexDigit? fun c hc => h.exists_hexDigit? hc]
      exact h
    · rw [Text.dropPrefix?_eq_some_iff.mpr rfl]
      exact h

/-! ## Spaced rows of digits -/

lemma spacedFrom_of_spells (h : Spells t bytes) (position : Nat) :
    spacedFrom position t = .ok bytes := by
  induction bytes generalizing t position with
  | nil =>
    obtain rfl := List.length_eq_zero_iff.mp h.length_eq
    rfl
  | cons byte bytes ih =>
    obtain ⟨a, b, rest, rfl, ha, hb, hrest⟩ := h.exists_cons_cons
    have hbyte : byte.toNat / 16 * 16 + byte.toNat % 16 = byte.toNat := by omega
    rw [spacedFrom_cons_cons ha hb, ih hrest, hbyte, UInt8.ofNat_toNat]
    rfl

lemma decodeSpaced_of_spells (h : Spells t bytes) : decodeSpaced t = .ok bytes := by
  have hascii : t.findIdx? (!·.isAscii) = none := by
    rw [List.findIdx?_eq_none_iff]
    intro c hc
    simp [h.isAscii hc]
  rw [decodeSpaced, hascii]
  exact spacedFrom_of_spells h 0

/-- There is no place for white space between two characters for every byte. -/
theorem decodeSpaced_eq_ok_iff (hlength : t.length = 2 * bytes.length) :
    decodeSpaced t = .ok bytes ↔ Spells t bytes := by
  refine ⟨fun h => ?_, decodeSpaced_of_spells⟩
  obtain ⟨bytes', hspells⟩ := exists_spells hlength ((length_of_decodeSpaced h).2 hlength.symm)
  have hsame := decodeSpaced_of_spells hspells
  rw [h] at hsame
  cases hsame
  exact hspells

lemma spells_hex (bytes : Bytes) : Spells bytes.hex bytes := by
  induction bytes with
  | nil => rfl
  | cons b bytes ih =>
    have hb := b.toNat_lt
    exact spells_cons_cons_iff.mpr
      ⟨hexDigit?_hexDigitChar _ (by omega), hexDigit?_hexDigitChar _ (by omega), ih⟩

/-- Reading undoes writing. -/
theorem decodeSpaced_hex (bytes : Bytes) : decodeSpaced bytes.hex = .ok bytes :=
  decodeSpaced_of_spells (spells_hex bytes)

end Spells

/-! ## Numbers -/

/-- The character stands for the number: it has this place among the sixteen digits, in either
case. -/
def IsDigit (c : CodePoint) (d : Nat) : Prop :=
  ∃ x : Char, c = .scalar x ∧
    ("0123456789abcdef".toList[d]? = some x ∨ "0123456789ABCDEF".toList[d]? = some x)

/-- The text is a row of digits, which denote the number in base 16. -/
def IsNumeral (t : Text) (n : Nat) : Prop :=
  ∃ ds, List.Forall₂ IsDigit t ds ∧ Radix.value 16 ds = n

section Numerals

variable {t : Text} {bytes : Bytes} {m n : Nat}

lemma hexDigit?_eq_some_iff {c : CodePoint} {d : Nat} : c.hexDigit? = some d ↔ IsDigit c d := by
  constructor
  · intro h
    cases c with
    | surrogate offset => cases h
    | scalar x =>
      have hdecimal : ∀ d < 10, "0123456789abcdef".toList[d]? = some (Char.ofNat (48 + d)) := by
        decide
      have hlower : ∀ d < 6, "0123456789abcdef".toList[d + 10]? = some (Char.ofNat (97 + d)) := by
        decide
      have hupper : ∀ d < 6, "0123456789ABCDEF".toList[d + 10]? = some (Char.ofNat (65 + d)) := by
        decide
      have hx : ∀ first k, x.toNat = first + k → Char.ofNat (first + k) = x := fun first k h =>
        h ▸ Char.ofNat_toNat x
      simp only [CodePoint.hexDigit?, Char.le_def, UInt32.le_iff_toNat_le, Char.toNat_val] at h
      simp only [show '0'.toNat = 48 from rfl, show '9'.toNat = 57 from rfl,
        show 'a'.toNat = 97 from rfl, show 'f'.toNat = 102 from rfl, show 'A'.toNat = 65 from rfl,
        show 'F'.toNat = 70 from rfl] at h
      split_ifs at h with h09 haf hAF <;> simp only [Option.some.injEq] at h
      · refine ⟨x, rfl, .inl ?_⟩
        rw [hdecimal d (by omega), hx 48 d (by omega)]
      · obtain ⟨k, rfl⟩ : ∃ k, d = k + 10 := ⟨d - 10, by omega⟩
        refine ⟨x, rfl, .inl ?_⟩
        rw [hlower k (by omega), hx 97 k (by omega)]
      · obtain ⟨k, rfl⟩ : ∃ k, d = k + 10 := ⟨d - 10, by omega⟩
        refine ⟨x, rfl, .inr ?_⟩
        rw [hupper k (by omega), hx 65 k (by omega)]
  · have hlower : ∀ e ∈ "0123456789abcdef".toList.zipIdx,
        (CodePoint.scalar e.1).hexDigit? = some e.2 := by decide
    have hupper : ∀ e ∈ "0123456789ABCDEF".toList.zipIdx,
        (CodePoint.scalar e.1).hexDigit? = some e.2 := by decide
    rintro ⟨x, rfl, h | h⟩
    · exact hlower _ (List.mk_mem_zipIdx_iff_getElem?.mpr h)
    · exact hupper _ (List.mk_mem_zipIdx_iff_getElem?.mpr h)

/-- Only one digit is zero. -/
lemma eq_of_hexDigit?_eq_zero {c : CodePoint} (h : c.hexDigit? = some 0) : c = .scalar '0' := by
  obtain ⟨x, rfl, hx | hx⟩ := hexDigit?_eq_some_iff.mp h
  · exact congrArg _ (Option.some.inj hx).symm
  · exact congrArg _ (Option.some.inj hx).symm

lemma isNumeral_iff :
    IsNumeral t n ↔ ∃ ds : List Nat, t.map CodePoint.hexDigit? = ds.map some ∧
      Radix.value 16 ds = n := by
  have hdigits : ∀ ds : List Nat, List.Forall₂ IsDigit t ds ↔
      t.map CodePoint.hexDigit? = ds.map some := by
    intro ds
    rw [← List.forall₂_eq_eq_eq, List.forall₂_map_left_iff, List.forall₂_map_right_iff]
    simp only [hexDigit?_eq_some_iff]
  simp only [IsNumeral, hdigits]

lemma IsNumeral.unique (hm : IsNumeral t m) (hn : IsNumeral t n) : m = n := by
  obtain ⟨ds, hds, rfl⟩ := isNumeral_iff.mp hm
  obtain ⟨ds', hds', rfl⟩ := isNumeral_iff.mp hn
  rw [List.map_injective_iff.mpr (Option.some_injective Nat) (hds.symm.trans hds')]

lemma IsNumeral.exists_hexDigit? (h : IsNumeral t n) {c : CodePoint} (hc : c ∈ t) :
    ∃ d, c.hexDigit? = some d := by
  obtain ⟨ds, hds, -⟩ := isNumeral_iff.mp h
  have hmem : c.hexDigit? ∈ t.map CodePoint.hexDigit? := List.mem_map_of_mem hc
  rw [hds] at hmem
  obtain ⟨d, -, hd⟩ := List.mem_map.mp hmem
  exact ⟨d, hd.symm⟩

/-- Zeros before the digits do not change the number. -/
lemma isNumeral_zeros_append_iff (zeros : Nat) :
    IsNumeral (List.replicate zeros (.scalar '0') ++ t) n ↔ IsNumeral t n := by
  have hzero : (CodePoint.scalar '0').hexDigit? = some 0 := by decide
  rw [isNumeral_iff, isNumeral_iff, List.map_append, List.map_replicate, hzero]
  constructor
  · rintro ⟨ds, hds, rfl⟩
    obtain ⟨before, after, rfl, hbefore, hafter⟩ := List.map_eq_append_iff.mp hds.symm
    rw [← List.map_replicate] at hbefore
    obtain rfl := List.map_injective_iff.mpr (Option.some_injective Nat) hbefore
    exact ⟨after, hafter.symm, (Radix.value_zeros_append zeros after).symm⟩
  · rintro ⟨ds, hds, rfl⟩
    refine ⟨List.replicate zeros 0 ++ ds, ?_, Radix.value_zeros_append zeros ds⟩
    rw [hds, List.map_append, List.map_replicate]

/-- Two digits of a base are one of its square. -/
lemma value_pairs (bytes : Bytes) :
    Radix.value 16 (bytes.flatMap fun b => [b.toNat / 16, b.toNat % 16]) =
      Radix.value 256 (bytes.map UInt8.toNat) := by
  have hfold : ∀ start : Nat,
      (bytes.flatMap fun b => [b.toNat / 16, b.toNat % 16]).foldl (fun n d => n * 16 + d) start =
        (bytes.map UInt8.toNat).foldl (fun n d => n * 256 + d) start := by
    induction bytes with
    | nil => exact fun _ => rfl
    | cons b bytes ih =>
      intro start
      have hstep : (start * 16 + b.toNat / 16) * 16 + b.toNat % 16 = start * 256 + b.toNat := by
        omega
      simp only [List.flatMap_cons, List.cons_append, List.nil_append, List.foldl_cons,
        List.map_cons, hstep]
      exact ih _
  exact hfold 0

/-- The digits that spell bytes denote the same number as these. -/
lemma Spells.isNumeral (h : Spells t bytes) :
    IsNumeral t (Radix.value 256 (bytes.map UInt8.toNat)) := by
  refine isNumeral_iff.mpr ⟨_, ?_, value_pairs bytes⟩
  rw [h, List.map_flatMap]
  rfl

/-- Digits spell the bytes that denote the same number. -/
theorem spells_iff_isNumeral (hlength : t.length = 2 * bytes.length) :
    Spells t bytes ↔ IsNumeral t (Radix.value 256 (bytes.map UInt8.toNat)) := by
  refine ⟨Spells.isNumeral, fun h => ?_⟩
  obtain ⟨bytes', hspells⟩ := exists_spells hlength fun c hc => h.exists_hexDigit? hc
  have hvalue := hspells.isNumeral.unique h
  have hlt : ∀ bytes : Bytes, ∀ d ∈ bytes.map UInt8.toNat, d < 256 := fun bytes =>
    List.forall_mem_map.mpr fun b _ => b.toNat_lt
  have hcount : bytes'.length = bytes.length := by
    have := hspells.length_eq
    omega
  have hbytes := Radix.value_inj (by decide) (hlt bytes') (hlt bytes) (by simpa using hcount) hvalue
  have htoNat : Function.Injective UInt8.toNat := fun _ _ => UInt8.toNat_inj.mp
  rwa [List.map_injective_iff.mpr htoNat hbytes] at hspells

end Numerals

end Hex

end MovePack
