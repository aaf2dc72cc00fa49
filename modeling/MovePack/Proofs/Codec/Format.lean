/-
# Formats

A writer and a reader form a format when they agree on layouts: values that fit are written as the
shortest spelling of their layouts, and what is read are the spellings of the layouts of the values
that fit, whatever follows them.
-/
import MovePack.Proofs.Codec.Layout
import MovePack.Proofs.Codec.Reader
import MovePack.Proofs.Text.Utf8

namespace MovePack.Codec

variable {α : Type}

namespace Reader

variable {input rest : Bytes}

lemma read_uleb_eq_ok_iff {n : Nat} :
    uleb.read input = (.ok n, rest) ↔ n ≤ maxCount ∧ (Piece.number n).SpelledBy input rest := by
  change ulebFrom 0 1 input = (.ok n, rest) ↔ _
  simp [ulebFrom_eq_ok_iff, Piece.SpelledBy]

lemma read_uleb_eq_ok_iff_of_le {n : Nat} (h : n ≤ maxCount) :
    uleb.read input = (.ok n, rest) ↔ (Piece.number n).SpelledBy input rest := by
  rw [read_uleb_eq_ok_iff, and_iff_right h]

end Reader

namespace Written

variable {bytes : Bytes}

/-- What is written fits. -/
lemma le_of_toExcept_count {n : Nat} (h : (count n).toExcept = .ok bytes) : n ≤ maxCount := by
  by_contra hlarge
  rw [count_of_lt (Nat.lt_of_not_le hlarge)] at h
  cases h

lemma length_le_of_toExcept_countedBytes {b : Bytes}
    (h : (countedBytes b).toExcept = .ok bytes) : b.length ≤ maxCount := by
  obtain ⟨_, _, hcount, -, -⟩ := toExcept_append_eq_ok_iff.mp h
  exact le_of_toExcept_count hcount

lemma fits_of_toExcept_text {t : Text} (h : (text t).toExcept = .ok bytes) :
    (∀ c ∈ t, c.isSurrogate = false) ∧ (Utf8.bytes t).length ≤ maxCount := by
  rw [text] at h
  split at h
  next encoded hencode =>
    have hsurrogate := Utf8.isSurrogate_of_encode hencode
    rw [Utf8.encode_eq_ok hsurrogate] at hencode
    cases hencode
    exact ⟨hsurrogate, length_le_of_toExcept_countedBytes h⟩
  next => cases h

lemma fits_of_toExcept_sequence {write : α → Written WriteFault} {Fits : α → Prop}
    (hfits : ∀ v b, (write v).toExcept = .ok b → Fits v) {values : List α}
    (h : (Written.sequence write values).toExcept = .ok bytes) :
    values.length ≤ maxCount ∧ ∀ v ∈ values, Fits v := by
  obtain ⟨_, _, hcount, hvalues, -⟩ := Written.toExcept_append_eq_ok_iff.mp h
  rw [Written.toExcept_mapFault_eq_ok_iff, List.length_map] at hcount
  refine ⟨Written.le_of_toExcept_count hcount, fun v hv => ?_⟩
  obtain ⟨b, hb⟩ := Written.exists_of_toExcept_concat hvalues (List.mem_map_of_mem hv)
  exact hfits v b hb

end Written

/-- A writer and a reader that agree on the layouts of the values that fit. -/
structure IsFormat (write : α → Written WriteFault) (reader : Reader α) (layout : α → List Piece)
    (Fits : α → Prop) : Prop where
  /-- A value that fits is written as the shortest spelling of its layout. -/
  write_eq : ∀ a, Fits a → write a = ⟨spell (layout a), none⟩
  /-- A value is read when it fits and the input begins with a spelling of its layout. -/
  read_iff : ∀ input a rest,
    reader.read input = (.ok a, rest) ↔ Fits a ∧ Spelled (layout a) input rest

namespace IsFormat

section General

variable {write : α → Written WriteFault} {reader : Reader α} {layout : α → List Piece}
  {Fits : α → Prop}

lemma toExcept_write (h : IsFormat write reader layout Fits) {a : α} (ha : Fits a) :
    (write a).toExcept = .ok (spell (layout a)) := by
  rw [h.write_eq a ha]
  rfl

/-- Where only values that fit are written completely, these are the written ones. -/
lemma toExcept_write_eq_ok_iff (h : IsFormat write reader layout Fits) {a : α} {bytes : Bytes}
    (hfits : (write a).toExcept = .ok bytes → Fits a) :
    (write a).toExcept = .ok bytes ↔ Fits a ∧ bytes = spell (layout a) := by
  constructor
  · intro hwrite
    exact ⟨hfits hwrite, Except.ok.inj (hwrite.symm.trans (h.toExcept_write (hfits hwrite)))⟩
  · rintro ⟨ha, rfl⟩
    exact h.toExcept_write ha

lemma read_spell_append (h : IsFormat write reader layout Fits) {a : α} (ha : Fits a)
    (suffix : Bytes) : reader.read (spell (layout a) ++ suffix) = (.ok a, suffix) :=
  (h.read_iff _ a suffix).mpr ⟨ha, spelled_spell (layout a) suffix⟩

/-- The whole input is a value exactly when it is a spelling of the layout of one that fits. -/
lemma readAll_eq_ok_iff (h : IsFormat write reader layout Fits) {a : α} {input : Bytes} :
    reader.readAll input = .ok a ↔ Fits a ∧ Spelled (layout a) input [] := by
  rw [← h.read_iff, Reader.readAll]
  rcases reader.read input with ⟨fault | b, _ | ⟨c, rest⟩⟩ <;> simp

lemma readAll_spell (h : IsFormat write reader layout Fits) {a : α} (ha : Fits a) :
    reader.readAll (spell (layout a)) = .ok a := by
  rw [h.readAll_eq_ok_iff]
  exact ⟨ha, by simpa using spelled_spell (layout a) []⟩

end General

lemma bool : IsFormat Written.bool Reader.bool (fun b => [.plain [if b then 1 else 0]])
    (fun _ => True) where
  write_eq b _ := by simp [Written.bool, Piece.bytes]
  read_iff input b rest := by
    simp only [Reader.bool, Reader.u8, Reader.read_bind_eq_ok_iff, Reader.read_uint_eq_ok_iff,
      spelled_singleton, spelledBy_plain, true_and]
    constructor
    · rintro ⟨n, mid, ⟨-, rfl⟩, h⟩
      split at h <;> simp at h <;> obtain ⟨rfl, rfl⟩ := h <;> rfl
    · rintro rfl
      cases b
      · exact ⟨0, rest, ⟨by decide, rfl⟩, rfl⟩
      · exact ⟨1, rest, ⟨by decide, rfl⟩, rfl⟩

lemma uint (width : Nat) :
    IsFormat (Written.uint width) (do return ((← Reader.uint width : Nat) : Int))
      (fun n => [.plain (Bytes.littleEndian width n.toNat)])
      (fun n => 0 ≤ n ∧ n < 2 ^ (8 * width)) where
  write_eq n hn := by
    have hlimit : ((Nat.pow 2 (8 * width) : ℕ) : Int) = 2 ^ (8 * width) := by simp
    rw [Written.uint, if_neg (by omega)]
    simp [Piece.bytes]
  read_iff input n rest := by
    simp only [Reader.read_bind_eq_ok_iff, Reader.read_uint_eq_ok_iff, Reader.read_pure,
      Prod.mk.injEq, Except.ok.injEq, spelled_singleton, spelledBy_plain]
    constructor
    · rintro ⟨m, mid, ⟨hm, rfl⟩, rfl, rfl⟩
      exact ⟨⟨by omega, by exact_mod_cast hm⟩, rfl⟩
    · rintro ⟨⟨hnonneg, hn⟩, rfl⟩
      lift n to ℕ using hnonneg
      exact ⟨n, rest, ⟨by exact_mod_cast hn, rfl⟩, rfl, rfl⟩

lemma uleb : IsFormat Written.uleb (do return ((← Reader.uleb : Nat) : Int))
    (fun n => [.number n.toNat]) (fun n => 0 ≤ n ∧ n ≤ maxCount) where
  write_eq n hn := by
    lift n to ℕ using hn.1
    rw [Written.uleb_of_le (by omega)]
    simp [Piece.bytes]
  read_iff input n rest := by
    simp only [Reader.read_bind_eq_ok_iff, Reader.read_uleb_eq_ok_iff, Reader.read_pure,
      Prod.mk.injEq, Except.ok.injEq, spelled_singleton]
    constructor
    · rintro ⟨m, mid, ⟨hm, hspelled⟩, rfl, rfl⟩
      exact ⟨⟨by omega, by omega⟩, hspelled⟩
    · rintro ⟨⟨hnonneg, hn⟩, hspelled⟩
      lift n to ℕ using hnonneg
      exact ⟨n, rest, ⟨by omega, hspelled⟩, rfl, rfl⟩

lemma fixed (length : Nat) : IsFormat Written.fixed (Reader.take length) (fun b => [.plain b])
    (fun b => b.length = length) where
  write_eq b _ := by simp [Written.fixed, Piece.bytes]
  read_iff input b rest := by
    rw [Reader.read_take_eq_ok_iff, spelled_singleton, spelledBy_plain]

lemma countedBytes : IsFormat Written.countedBytes Reader.bytes countedLayout
    (fun b => b.length ≤ maxCount) where
  write_eq b hb := by
    rw [Written.countedBytes, Written.count_of_le hb, Written.fixed, Written.complete_append]
    simp [countedLayout, Piece.bytes]
  read_iff input b rest := by
    simp only [Reader.bytes, Reader.read_bind_eq_ok_iff, Reader.read_uleb_eq_ok_iff,
      Reader.read_take_eq_ok_iff, countedLayout, spelled_cons, spelled_nil, spelledBy_plain]
    constructor
    · rintro ⟨n, mid, ⟨hn, hspelled⟩, rfl, rfl⟩
      exact ⟨hn, _, hspelled, _, rfl, rfl⟩
    · rintro ⟨hb, mid, hspelled, _, rfl, rfl⟩
      exact ⟨_, _, ⟨hb, hspelled⟩, rfl, rfl⟩

lemma text : IsFormat Written.text Reader.text (fun t => countedLayout (Utf8.bytes t))
    (fun t => (∀ c ∈ t, c.isSurrogate = false) ∧ (Utf8.bytes t).length ≤ maxCount) where
  write_eq t ht := by
    rw [Written.text, Utf8.encode_eq_ok ht.1]
    exact countedBytes.write_eq _ ht.2
  read_iff input t rest := by
    simp only [Reader.text_eq, Reader.read_bind_eq_ok_iff, countedBytes.read_iff]
    constructor
    · rintro ⟨b, mid, ⟨hb, hspelled⟩, h⟩
      split at h
      next t' hdecode =>
        simp only [Reader.read_pure, Prod.mk.injEq, Except.ok.injEq] at h
        obtain ⟨rfl, rfl⟩ := h
        obtain ⟨ht, rfl⟩ := Utf8.decode_eq_ok_iff.mp hdecode
        exact ⟨⟨ht, hb⟩, hspelled⟩
      next => simp at h
    · rintro ⟨⟨ht, hb⟩, hspelled⟩
      refine ⟨_, rest, ⟨hb, hspelled⟩, ?_⟩
      rw [Utf8.decode_eq_ok_iff.mpr ⟨ht, rfl⟩]
      rfl

lemma address : IsFormat Address.write Address.reader (fun a => [.plain a.bytes])
    (fun _ => True) where
  write_eq a _ := by simp [Address.write, Written.fixed, Piece.bytes]
  read_iff input a rest := by
    simp only [Address.reader, Reader.read_bind_eq_ok_iff, Reader.read_take_eq_ok_iff,
      spelled_singleton, spelledBy_plain, true_and]
    constructor
    · rintro ⟨b, mid, ⟨hb, rfl⟩, h⟩
      rw [Address.ofBytes, dif_pos (show b.length = 32 from hb)] at h
      cases h
      rfl
    · rintro rfl
      refine ⟨a.bytes, rest, ⟨a.length_bytes, rfl⟩, ?_⟩
      rw [Address.ofBytes, dif_pos a.length_bytes]
      rfl

section Sequence

variable {write : α → Written WriteFault} {reader : Reader α} {layout : α → List Piece}
  {Fits : α → Prop}

lemma read_replicate_eq_ok_iff (h : IsFormat write reader layout Fits) {count : Nat}
    {input rest : Bytes} {values : List α} :
    (Reader.replicate reader count).read input = (.ok values, rest) ↔
      values.length = count ∧ (∀ v ∈ values, Fits v) ∧
        Spelled (values.flatMap layout) input rest := by
  induction count generalizing input rest values with
  | zero =>
    simp only [Reader.replicate, Reader.read_pure, Prod.mk.injEq, Except.ok.injEq]
    constructor
    · rintro ⟨rfl, rfl⟩
      simp
    · rintro ⟨hlength, -, hspelled⟩
      obtain rfl := List.length_eq_zero_iff.mp hlength
      exact ⟨rfl, hspelled⟩
  | succ count ih =>
    simp only [Reader.replicate, Reader.read_bind_eq_ok_iff, h.read_iff, ih, Reader.read_pure,
      Prod.mk.injEq, Except.ok.injEq]
    constructor
    · rintro ⟨v, mid, ⟨hv, hfirst⟩, values, _, ⟨rfl, hvalues, hothers⟩, rfl, rfl⟩
      exact ⟨rfl, List.forall_mem_cons.mpr ⟨hv, hvalues⟩, spelled_append.mpr ⟨mid, hfirst, hothers⟩⟩
    · rintro ⟨hlength, hvalues, hspelled⟩
      obtain ⟨v, values, rfl⟩ := List.exists_cons_of_length_eq_add_one hlength
      obtain ⟨hv, hvalues⟩ := List.forall_mem_cons.mp hvalues
      obtain ⟨mid, hfirst, hothers⟩ := spelled_append.mp hspelled
      exact ⟨v, mid, ⟨hv, hfirst⟩, values, rest, ⟨by simpa using hlength, hvalues, hothers⟩, rfl, rfl⟩

lemma sequence (h : IsFormat write reader layout Fits) :
    IsFormat (Written.sequence write) (Reader.sequence reader) (sequenceLayout layout)
      (fun values => values.length ≤ maxCount ∧ ∀ v ∈ values, Fits v) where
  write_eq values hvalues := by
    have helements := Written.concat_map_complete fun v hv => h.write_eq v (hvalues.2 v hv)
    rw [Written.sequence, Written.counted, List.length_map, Written.count_of_le hvalues.1,
      helements]
    simp [sequenceLayout, Piece.bytes, Written.mapFault, Written.complete_append, spell,
      List.flatMap_assoc]
  read_iff input values rest := by
    simp only [Reader.sequence, Reader.read_bind_eq_ok_iff, Reader.read_uleb_eq_ok_iff,
      h.read_replicate_eq_ok_iff, sequenceLayout, spelled_cons]
    constructor
    · rintro ⟨n, mid, ⟨hn, hspelled⟩, rfl, hvalues, hothers⟩
      exact ⟨⟨hn, hvalues⟩, mid, hspelled, hothers⟩
    · rintro ⟨⟨hn, hvalues⟩, mid, hspelled, hothers⟩
      exact ⟨_, mid, ⟨hn, hspelled⟩, rfl, hvalues, hothers⟩

end Sequence

end IsFormat

end MovePack.Codec
