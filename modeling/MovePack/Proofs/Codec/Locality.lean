/-
# What a reader looks at

A reader looks at nothing behind the bytes that it takes.  It reads the same value whatever follows
them, and a fault that it finds in them is found whatever follows.  Only when the bytes end before
the value does it matter what comes next.  Readers that are put together from such readers are again
of this kind, so it holds of every schema whose values end by themselves, by induction on its
nesting.
-/
import MovePack.Proofs.Codec.RoundTrip

namespace MovePack

namespace Codec

variable {α β : Type}

namespace Reader

/-- The outcome of a reader is decided by the bytes that it takes. -/
structure IsLocal (r : Reader α) : Prop where
  /-- What is left is the end of the input. -/
  suffix : ∀ input, (r.read input).2 <:+ input
  /-- A value is read from the bytes that are taken for it, whatever follows them. -/
  value_iff : ∀ {used rest a}, r.read (used ++ rest) = (.ok a, rest) ↔ r.read used = (.ok a, [])
  /-- A fault other than the end of the input is found whatever follows, though one that is not of
  the bytes only in inputs whose bytes can be counted. -/
  fault : ∀ {input rest f}, r.read input = (.error f, rest) →
    (∃ requested found, f = .endOfInput requested found) ∨
      ∀ more, (f.IsOfBytes ∨ (input ++ more).length ≤ maxIndex) →
        r.read (input ++ more) = (.error f, rest ++ more)

namespace IsLocal

section General

variable {r : Reader α} {input rest : Bytes}

lemma exists_append (h : IsLocal r) {outcome : Except ReadFault α}
    (hread : r.read input = (outcome, rest)) : ∃ used, input = used ++ rest := by
  obtain ⟨used, hused⟩ := h.suffix input
  rw [hread] at hused
  exact ⟨used, hused.symm⟩

/-- A value is read in the same way when more bytes follow. -/
lemma read_append (h : IsLocal r) {a : α} (hread : r.read input = (.ok a, rest)) (more : Bytes) :
    r.read (input ++ more) = (.ok a, rest ++ more) := by
  obtain ⟨used, rfl⟩ := h.exists_append hread
  rw [List.append_assoc]
  exact h.value_iff.mpr (h.value_iff.mp hread)

/-- A part of the bytes of a value ends before the value does. -/
lemma endOfInput_of_prefix (h : IsLocal r) {a : α} {used front : Bytes}
    (hblames : r.BlamesBytes ∨ used.length ≤ maxIndex)
    (hread : r.read used = (.ok a, [])) (hfront : front <+: used) (hne : front ≠ used) :
    ∃ requested found, (r.read front).1 = .error (.endOfInput requested found) := by
  obtain ⟨tail, rfl⟩ := hfront
  rcases hpart : r.read front with ⟨f | b, rest⟩
  · rcases h.fault hpart with ⟨requested, found, rfl⟩ | hmore
    · exact ⟨requested, found, rfl⟩
    · rw [hmore tail (hblames.imp_left fun hr => hr _ _ _ hpart)] at hread
      cases hread
  · -- a value read from the part would leave the tail of the bytes over
    rw [h.read_append hpart tail] at hread
    simp only [Prod.mk.injEq, List.append_eq_nil_iff] at hread
    exact absurd (by simp [hread.2.2]) hne

end General

/-! ## Readers that are put together -/

lemma pure (a : α) : IsLocal (Pure.pure a : Reader α) where
  suffix input := List.suffix_refl input
  value_iff := by
    intro used rest b
    simp
  fault := by
    intro input rest f h
    simp at h

lemma fail (f : ReadFault) : IsLocal (Reader.fail f : Reader α) where
  suffix input := List.suffix_refl input
  value_iff := by simp
  fault := by
    intro input rest g h
    simp only [read_fail, Prod.mk.injEq, Except.error.injEq] at h
    obtain ⟨rfl, rfl⟩ := h
    exact .inr fun more _ => by rw [read_fail]

lemma bind {r : Reader α} {next : α → Reader β} (hr : IsLocal r) (hnext : ∀ a, IsLocal (next a)) :
    IsLocal (r >>= next) where
  suffix input := by
    have hmid := hr.suffix input
    rw [read_bind]
    rcases hread : r.read input with ⟨f | a, mid⟩ <;> rw [hread] at hmid
    · exact hmid
    · exact ((hnext a).suffix mid).trans hmid
  value_iff := by
    intro used rest b
    simp only [read_bind_eq_ok_iff]
    constructor
    · rintro ⟨a, mid, hfirst, hsecond⟩
      -- the bytes that are taken are those of the first reader and those of the second one
      obtain ⟨second, rfl⟩ := (hnext a).exists_append hsecond
      obtain ⟨first, hfirst'⟩ := hr.exists_append hfirst
      obtain rfl : used = first ++ second := by simpa [← List.append_assoc] using hfirst'
      rw [List.append_assoc] at hfirst
      exact ⟨a, second, hr.value_iff.mpr (hr.value_iff.mp hfirst),
        (hnext a).value_iff.mp hsecond⟩
    · rintro ⟨a, mid, hfirst, hsecond⟩
      exact ⟨a, mid ++ rest, hr.read_append hfirst rest, (hnext a).value_iff.mpr hsecond⟩
  fault := by
    intro input rest f h
    rcases read_bind_eq_error_iff.mp h with hfirst | ⟨a, mid, hfirst, hsecond⟩
    · refine (hr.fault hfirst).imp_right fun hmore more hcond => ?_
      rw [read_bind, hmore more hcond]
    · refine ((hnext a).fault hsecond).imp_right fun hmore more hcond => ?_
      rw [read_bind, hr.read_append hfirst more]
      obtain ⟨first, rfl⟩ := hr.exists_append hfirst
      refine hmore more (hcond.imp_right fun hle => ?_)
      rw [List.append_assoc, List.length_append] at hle
      exact (Nat.le_add_left _ _).trans hle

lemma replicate {r : Reader α} (hr : IsLocal r) (count : Nat) :
    IsLocal (Reader.replicate r count) := by
  induction count with
  | zero => exact pure []
  | succ count ih => exact hr.bind fun a => ih.bind fun rest => pure (a :: rest)

/-! ## Readers of bytes and numbers -/

lemma take (count : Nat) : IsLocal (Reader.take count) where
  suffix input := by
    rw [read_take]
    split_ifs
    · exact List.drop_suffix count input
    · exact List.suffix_refl input
    · exact List.drop_suffix count input
  value_iff := by
    intro used rest a
    simp [read_take_eq_ok_iff]
  fault := by
    intro input rest f h
    rw [read_take] at h
    split_ifs at h with hlong hindex <;> cases h
    · -- as long as the bytes can be counted there are never as many as are asked for
      refine .inr fun more hcond => ?_
      have hle : (input ++ more).length ≤ maxIndex :=
        hcond.resolve_left fun hbytes => hbytes _ rfl
      rw [read_take, if_neg (by omega), if_pos hindex]
    · exact .inl ⟨_, _, rfl⟩

lemma ulebFrom_suffix (value weight : Nat) (input : Bytes) :
    (Reader.ulebFrom value weight input).2 <:+ input := by
  fun_induction Reader.ulebFrom value weight input with
  | case1 => exact List.suffix_refl []
  | case2 | case3 => exact List.suffix_cons _ _
  | case4 _ _ _ _ _ _ _ ih => exact ih.trans (List.suffix_cons _ _)

lemma ulebFrom_fault {value weight : Nat} {input rest : Bytes} {f : ReadFault}
    (h : Reader.ulebFrom value weight input = (.error f, rest)) :
    (∃ requested found, f = .endOfInput requested found) ∨
      ∀ more, Reader.ulebFrom value weight (input ++ more) = (.error f, rest ++ more) := by
  fun_induction Reader.ulebFrom value weight input with
  | case1 =>
    cases h
    exact .inl ⟨1, 0, rfl⟩
  | case2 value weight b input sum hlarge =>
    cases h
    exact .inr fun more => by rw [List.cons_append, Reader.ulebFrom, if_pos hlarge]
  | case3 => cases h
  | case4 value weight b input sum hsmall hmore ih =>
    refine (ih h).imp_right fun hrest more => ?_
    rw [List.cons_append, Reader.ulebFrom, if_neg hsmall, if_neg hmore]
    exact hrest more

lemma uleb : IsLocal Reader.uleb where
  suffix input := ulebFrom_suffix 0 1 input
  value_iff := by
    intro used rest n
    simp [read_uleb_eq_ok_iff, Piece.SpelledBy]
  fault h := (ulebFrom_fault h).imp_right fun hmore more _ => hmore more

lemma uint (width : Nat) : IsLocal (Reader.uint width) := (take width).bind fun _ => pure _

lemma bool : IsLocal Reader.bool := by
  refine (uint 1).bind fun n => ?_
  split
  · exact pure false
  · exact pure true
  · exact fail _

lemma bytes : IsLocal Reader.bytes := uleb.bind take

lemma text : IsLocal Reader.text := by
  rw [text_eq]
  refine bytes.bind fun b => ?_
  split
  · exact pure _
  · exact fail _

lemma address : IsLocal Address.reader := by
  refine (take Address.size).bind fun b => ?_
  split
  · exact pure _
  · exact fail _

lemma sequence {r : Reader α} (hr : IsLocal r) : IsLocal (Reader.sequence r) :=
  uleb.bind hr.replicate

end IsLocal

end Reader

end Codec

/-! ## Type tags -/

namespace TypeTag

open Codec (Reader)

/-- Reads the numbers of a tag after `depth` vectors, with room for `fuel` of them. -/
def numbers (depth fuel : Nat) : Reader TypeTag := ExceptT.mk (readNumbers depth fuel)

lemma numbers_succ (depth fuel : Nat) :
    numbers depth (fuel + 1) = Reader.uleb >>= fun variant =>
      if variant = vectorVariant then numbers (depth + 1) fuel
      else match ofInnermost depth variant with
        | .ok tag => pure tag
        | .error fault => Reader.fail fault := by
  funext input
  change readNumbers depth (fuel + 1) input = Reader.read _ input
  rw [Reader.read_bind, readNumbers]
  rcases Reader.uleb.read input with ⟨fault | variant, rest⟩
  · rfl
  · dsimp only
    split
    · rfl
    · split <;> rename_i heq <;> rw [heq] <;> rfl

lemma isLocal_numbers (depth fuel : Nat) : (numbers depth fuel).IsLocal := by
  induction fuel generalizing depth with
  | zero =>
    have hread : ∀ input, (numbers depth 0).read input = (.error (.endOfInput 1 0), input) :=
      fun _ => rfl
    refine ⟨List.suffix_refl, by simp [hread], fun h => ?_⟩
    rw [hread] at h
    cases h
    exact .inl ⟨1, 0, rfl⟩
  | succ fuel ih =>
    rw [numbers_succ]
    refine Reader.IsLocal.uleb.bind fun variant => ?_
    split
    · exact ih (depth + 1)
    · split
      · exact .pure _
      · exact .fail _

/-- More room than there are bytes makes no difference. -/
lemma readNumbers_congr {fuel fuel' depth : Nat} {input : Bytes} (h : input.length < fuel)
    (h' : input.length < fuel') : readNumbers depth fuel input = readNumbers depth fuel' input := by
  induction fuel generalizing fuel' depth input with
  | zero => omega
  | succ fuel ih =>
    obtain ⟨fuel', rfl⟩ := Nat.exists_eq_succ_of_ne_zero (show fuel' ≠ 0 by omega)
    rw [readNumbers, readNumbers]
    rcases hread : Reader.uleb.read input with ⟨fault | variant, rest⟩
    · rfl
    · have hlength := (Codec.Reader.read_uleb_eq_ok_iff.mp hread).2.length_lt
      have hroom : rest.length < fuel := by omega
      have hroom' : rest.length < fuel' := by omega
      dsimp only
      rw [ih hroom hroom']

lemma read_reader_of_lt {input : Bytes} {fuel : Nat} (h : input.length < fuel) :
    reader.read input = (numbers 0 fuel).read input :=
  readNumbers_congr (Nat.lt_succ_self _) h

lemma isLocal_reader : reader.IsLocal where
  suffix input := by
    rw [read_reader_of_lt (Nat.lt_succ_self _)]
    exact (isLocal_numbers 0 _).suffix input
  value_iff := by
    -- the room for the longer input is room enough for its front
    intro used rest tag
    have hroom : used.length < (used ++ rest).length + 1 := by
      rw [List.length_append]
      omega
    rw [read_reader_of_lt hroom, read_reader_of_lt (Nat.lt_succ_self _)]
    exact (isLocal_numbers 0 _).value_iff
  fault := by
    intro input rest fault h
    by_cases hend : ∃ requested found, fault = .endOfInput requested found
    · exact .inl hend
    · refine .inr fun more => ?_
      have hroom : input.length < (input ++ more).length + 1 := by
        rw [List.length_append]
        omega
      rw [read_reader_of_lt hroom] at h
      rw [read_reader_of_lt (Nat.lt_succ_self _)]
      exact ((isLocal_numbers 0 _).fault h).resolve_left hend more

end TypeTag

/-! ## Schemas -/

namespace Codec.Schema

lemma isLocal_reader {t : Schema} (h : t.SelfDelimiting) : t.reader.IsLocal := by
  induction t with
  | bool => exact .bool
  | uint width => exact (Reader.IsLocal.uint width).bind fun _ => .pure _
  | uleb => exact Reader.IsLocal.uleb.bind fun _ => .pure _
  | bytes => exact .bytes
  | fixed length => exact .take length
  | rest => exact h.elim
  | text => exact .text
  | address => exact .address
  | typeTag => exact TypeTag.isLocal_reader
  | sequence element ih => exact .sequence (ih h)

end Codec.Schema

end MovePack
