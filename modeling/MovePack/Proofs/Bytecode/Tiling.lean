/-
# Tables side by side

A directory lists its tables in any order.  In the order of their offsets the tables of a header
follow one another; without any order this says that they divide the first places after the
directory among themselves, so that each of these lies in one table and in no other.  Headers are
characterized by that, and the contents of their tables, in the order of the offsets, are the bytes
between the two ends.
-/
import MovePack.Proofs.Bytecode.Header

namespace MovePack.Bytecode

open Codec (Spelled)

namespace Table

/-- The table takes the place. -/
def Covers (table : Table) (place : Nat) : Prop :=
  table.offset ≤ place ∧ place < table.offset + table.length

/-- No place is taken by both tables. -/
def IsApartFrom (a b : Table) : Prop := ∀ place, ¬(a.Covers place ∧ b.Covers place)

lemma IsApartFrom.symm {a b : Table} (h : a.IsApartFrom b) : b.IsApartFrom a :=
  fun place hboth => h place hboth.symm

end Table

/-- The tables divide the places from `start` up to `finish` among themselves: they take these and
no others, and no place is taken by two of them. -/
structure IsPartition (start finish : Nat) (tables : List Table) : Prop where
  le : start ≤ finish
  covered_iff : ∀ place, (∃ table ∈ tables, table.Covers place) ↔ start ≤ place ∧ place < finish
  apart : tables.Pairwise Table.IsApartFrom

namespace IsPartition

variable {start finish : Nat} {table : Table} {tables tables' : List Table}

/-- Neither gaps nor overlaps depend on an order. -/
lemma of_perm (h : IsPartition start finish tables) (hperm : tables.Perm tables') :
    IsPartition start finish tables' where
  le := h.le
  covered_iff place := by simpa only [hperm.mem_iff] using h.covered_iff place
  apart := (hperm.pairwise_iff fun h => h.symm).mp h.apart

lemma nil_iff : IsPartition start finish [] ↔ start = finish := by
  constructor
  · intro h
    have hle := h.le
    have hnone := h.covered_iff start
    simp at hnone
    omega
  · rintro rfl
    exact ⟨le_rfl, fun place => by simp, .nil⟩

/-- A table that is not empty and comes before all others has to begin at the start, and the others
divide what it leaves. -/
lemma cons_iff (hpos : 0 < table.length) (hfirst : ∀ later ∈ tables, table.offset ≤ later.offset) :
    IsPartition start finish (table :: tables) ↔
      table.offset = start ∧ IsPartition (start + table.length) finish tables := by
  constructor
  · intro h
    obtain ⟨hapart, hothers⟩ := List.pairwise_cons.mp h.apart
    have hcovers := fun place hplace =>
      (h.covered_iff place).mp ⟨table, List.mem_cons_self, hplace⟩
    obtain ⟨hlow, hhigh⟩ := hcovers table.offset ⟨le_rfl, by omega⟩
    obtain ⟨-, hlast⟩ := hcovers (table.offset + table.length - 1) ⟨by omega, by omega⟩
    -- whatever table takes the start, the first one does not begin after it
    have hoffset : table.offset = start := by
      obtain ⟨other, hother, hbegin, -⟩ := (h.covered_iff start).mpr ⟨le_rfl, by omega⟩
      obtain rfl | hother := List.mem_cons.mp hother
      · omega
      · have := hfirst other hother
        omega
    refine ⟨hoffset, by omega, fun place => ?_, hothers⟩
    constructor
    · rintro ⟨later, hlater, hplace⟩
      obtain ⟨hstart, hfinish⟩ :=
        (h.covered_iff place).mp ⟨later, List.mem_cons_of_mem _ hlater, hplace⟩
      have hnot : ¬ table.Covers place := fun htable => hapart later hlater place ⟨htable, hplace⟩
      rw [Table.Covers] at hnot
      omega
    · rintro ⟨hstart, hfinish⟩
      obtain ⟨other, hother, hplace⟩ := (h.covered_iff place).mpr ⟨by omega, hfinish⟩
      obtain rfl | hother := List.mem_cons.mp hother
      · have hend := hplace.2
        omega
      · exact ⟨other, hother, hplace⟩
  · rintro ⟨rfl, h⟩
    have hle := h.le
    refine ⟨by omega, fun place => ?_, List.pairwise_cons.mpr ⟨fun later hlater place => ?_, h.apart⟩⟩
    · rw [List.exists_mem_cons_iff, h.covered_iff, Table.Covers]
      omega
    · rintro ⟨⟨-, hend⟩, hplace⟩
      have hbegin := ((h.covered_iff place).mp ⟨later, hlater, hplace⟩).1
      omega

end IsPartition

namespace Header

variable {start finish length : Nat} {tables : List Table} {binary : Bytes} {header : Header}

/-! ## The order of the offsets -/

lemma offset_le_of_notAfter {a b : Table} (h : notAfter a b = true) : a.offset ≤ b.offset := by
  simp only [notAfter, Bool.or_eq_true, Bool.and_eq_true, decide_eq_true_eq] at h
  omega

lemma pairwise_sorted (tables : List Table) :
    (tables.mergeSort notAfter).Pairwise fun a b => a.offset ≤ b.offset := by
  refine List.Pairwise.imp (fun {a b} h => offset_le_of_notAfter h)
    (List.pairwise_mergeSort (fun a b c => ?_) (fun a b => ?_) tables)
  · simp only [notAfter, Bool.or_eq_true, Bool.and_eq_true, decide_eq_true_eq]
    omega
  · simp only [notAfter, Bool.or_eq_true, Bool.and_eq_true, decide_eq_true_eq]
    omega

/-- Tables in the order of their offsets follow one another exactly when they divide the places
between the two ends. -/
lemma tile?_eq_some_iff (hsorted : tables.Pairwise fun a b => a.offset ≤ b.offset)
    (hpos : ∀ table ∈ tables, 0 < table.length) :
    tile? start tables = some finish ↔ IsPartition start finish tables := by
  induction tables generalizing start with
  | nil => rw [tile?, Option.some.injEq, IsPartition.nil_iff]
  | cons table tables ih =>
    obtain ⟨hfirst, hsorted⟩ := List.pairwise_cons.mp hsorted
    obtain ⟨htable, hpos⟩ := List.forall_mem_cons.mp hpos
    rw [tile?, IsPartition.cons_iff htable hfirst, ← ih hsorted hpos]
    split_ifs with hoffset
    · simp [hoffset]
    · simp [hoffset]

/-- The tables have a common length exactly when they divide as many places among themselves. -/
lemma contentLength?_eq_some_iff (hpos : ∀ table ∈ tables, 0 < table.length) :
    contentLength? tables = some length ↔ IsPartition 0 length tables := by
  have hperm := List.mergeSort_perm tables notAfter
  rw [contentLength?, tile?_eq_some_iff (pairwise_sorted tables)
    fun table htable => hpos table (hperm.mem_iff.mp htable)]
  exact ⟨fun h => h.of_perm hperm, fun h => h.of_perm hperm.symm⟩

lemma le_of_tile? (h : tile? start tables = some finish) : start ≤ finish := by
  induction tables generalizing start with
  | nil => exact (Option.some.inj h).le
  | cons table tables ih =>
    rw [tile?] at h
    split_ifs at h
    have := ih h
    omega

/-- The slices of tables that follow one another make up what lies between the two ends. -/
lemma flatten_slices (s : Bytes) (h : tile? start tables = some finish) :
    (tables.map fun table => (s.drop table.offset).take table.length).flatten =
      (s.drop start).take (finish - start) := by
  induction tables generalizing start with
  | nil =>
    obtain rfl := Option.some.inj h
    simp
  | cons table tables ih =>
    rw [tile?] at h
    split_ifs at h with hoffset
    have hle := le_of_tile? h
    rw [List.map_cons, List.flatten_cons, ih h, hoffset,
      show finish - start = table.length + (finish - (start + table.length)) by omega,
      List.take_add, List.drop_drop]

/-- The tables of a header in the order of their offsets. -/
def byOffset (header : Header) : List Table :=
  header.tables.mergeSort fun a b => a.offset ≤ b.offset

lemma perm_byOffset (header : Header) : header.byOffset.Perm header.tables :=
  List.mergeSort_perm _ _

lemma pairwise_byOffset (header : Header) :
    header.byOffset.Pairwise fun a b => a.offset ≤ b.offset := by
  have hsorted : header.byOffset.Pairwise fun a b => decide (a.offset ≤ b.offset) = true :=
    List.pairwise_mergeSort (fun a b c => by simpa using le_trans)
      (fun a b => by simpa using le_total _ _) header.tables
  simpa using hsorted

/-! ## What is a header -/

/-- The binary begins with a header: the marking bytes, a number whose lower bytes are a supported
version, and the entries of a directory that can be read.  Its tables divide the first `length`
bytes of what follows. -/
structure IsHeader (binary : Bytes) (word : Nat) (tables : List Table) (rest : Bytes)
    (length : Nat) : Prop where
  word_lt : word < 2 ^ (8 * 4)
  supported : IsSupported word
  directory : IsDirectory tables
  spelled : Spelled (layout word tables) binary rest
  partition : IsPartition 0 length tables
  length_le : length ≤ rest.length

lemma ofBinary_eq_ok_iff_isHeader :
    ofBinary binary = .ok header ↔
      ∃ word rest length, IsHeader binary word header.tables rest length ∧
        header.version = word % Nat.pow 2 24 ∧
        header.contentStart = binary.length - rest.length ∧
        header.contentEnd = header.contentStart + length := by
  rw [ofBinary_eq_ok_iff]
  constructor
  · rintro ⟨word, rest, length, hword, hsupported, -, hdirectory, hspelled, htiles, hlong, hfields⟩
    exact ⟨word, rest, length, ⟨hword, hsupported, hdirectory, hspelled,
      (contentLength?_eq_some_iff hdirectory.nonempty).mp htiles, hlong⟩, hfields⟩
  · rintro ⟨word, rest, length, h, hfields⟩
    have hcount := TableKind.length_le_of_nodup h.directory.nodup
    rw [List.length_map] at hcount
    exact ⟨word, rest, length, h.word_lt, h.supported, hcount, h.directory, h.spelled,
      (contentLength?_eq_some_iff h.directory.nonempty).mpr h.partition, h.length_le, hfields⟩

/-- What begins with a header is accepted. -/
lemma IsHeader.exists_ofBinary {word : Nat} {rest : Bytes}
    (h : IsHeader binary word tables rest length) :
    ∃ header, ofBinary binary = .ok header :=
  ⟨⟨word % Nat.pow 2 24, tables, binary.length - rest.length,
      binary.length - rest.length + length⟩,
    ofBinary_eq_ok_iff_isHeader.mpr ⟨word, rest, length, h, rfl, rfl, rfl⟩⟩

/-! ## The contents of the tables -/

lemma content_eq (hnodup : (header.tables.map Table.kind).Nodup) {table : Table}
    (h : table ∈ header.tables) :
    header.content binary table.kind =
      ((binary.drop header.contentStart).drop table.offset).take table.length := by
  rw [content, find?, List.find?_eq_some_of_nodup_map hnodup h, List.drop_drop]

/-- A table is as long as its entry says. -/
lemma length_content (hdirectory : IsDirectory header.tables)
    (hpartition : IsPartition 0 length header.tables)
    (hlong : header.contentStart + length ≤ binary.length) {table : Table}
    (h : table ∈ header.tables) : (header.content binary table.kind).length = table.length := by
  have hpos := hdirectory.nonempty table h
  have hlast := (hpartition.covered_iff (table.offset + table.length - 1)).mp
    ⟨table, h, by omega, by omega⟩
  rw [content_eq hdirectory.nodup h, List.length_take, List.length_drop, List.length_drop]
  omega

/-- The contents in the order of the offsets are the bytes that the tables divide among
themselves. -/
lemma flatten_content (hdirectory : IsDirectory header.tables)
    (hpartition : IsPartition 0 length header.tables) :
    (header.byOffset.map fun table => header.content binary table.kind).flatten =
      (binary.drop header.contentStart).take length := by
  have hperm := header.perm_byOffset
  have htiles := (tile?_eq_some_iff header.pairwise_byOffset fun table htable =>
    hdirectory.nonempty table (hperm.mem_iff.mp htable)).mpr (hpartition.of_perm hperm.symm)
  rw [List.map_congr_left fun table htable =>
    content_eq hdirectory.nodup (hperm.mem_iff.mp htable), flatten_slices _ htiles, Nat.sub_zero,
    List.drop_zero]

/-- **Binaries with a header are those whose tables lie side by side.**  A binary is accepted
exactly when it begins with a header, and refused otherwise.  In an accepted one every table has
the length that the directory gives it, and one after the other, in the order of their offsets,
the tables are the bytes between the ends of the contents. -/
theorem exists_ofBinary_iff_isHeader (binary : Bytes) :
    ((∃ header, ofBinary binary = .ok header) ↔
      ∃ word tables rest length, IsHeader binary word tables rest length) ∧
    ((∃ fault, ofBinary binary = .error fault) ↔
      ¬ ∃ word tables rest length, IsHeader binary word tables rest length) ∧
    ∀ header, ofBinary binary = .ok header →
      (∃ word rest length, IsHeader binary word header.tables rest length ∧
        header.version = word % Nat.pow 2 24 ∧
        header.contentStart + rest.length = binary.length ∧
        header.contentEnd = header.contentStart + length) ∧
      (∀ table ∈ header.tables, (header.content binary table.kind).length = table.length) ∧
      (header.byOffset.map fun table => header.content binary table.kind).flatten =
        (binary.drop header.contentStart).take (header.contentEnd - header.contentStart) := by
  have haccepts : (∃ header, ofBinary binary = .ok header) ↔
      ∃ word tables rest length, IsHeader binary word tables rest length := by
    constructor
    · rintro ⟨header, h⟩
      obtain ⟨word, rest, length, hheader, -⟩ := ofBinary_eq_ok_iff_isHeader.mp h
      exact ⟨word, header.tables, rest, length, hheader⟩
    · rintro ⟨word, tables, rest, length, hheader⟩
      exact hheader.exists_ofBinary
  refine ⟨haccepts, ?_, fun header h => ?_⟩
  · rw [← haccepts]
    cases ofBinary binary <;> simp
  · obtain ⟨word, rest, length, hheader, hversion, hstart, hend⟩ :=
      ofBinary_eq_ok_iff_isHeader.mp h
    have hrest := hheader.spelled.length_le
    have hlong := hheader.length_le
    refine ⟨⟨word, rest, length, hheader, hversion, by omega, hend⟩, fun table htable => ?_, ?_⟩
    · exact length_content hheader.directory hheader.partition (by omega) htable
    · rw [flatten_content hheader.directory hheader.partition, hend, Nat.add_sub_cancel_left]

/-- Two tables, of which the one that comes first is listed last, and a byte after them. -/
theorem exists_ofBinary_iff_isHeader_reversed :
    let binary : Bytes := magic ++ [6, 0, 0, 0, 2, 7, 1, 2, 5, 0, 1, 0xA, 0xB, 0xC, 0xD]
    let tables : List Table := [⟨.identifiers, 1, 2⟩, ⟨.signatures, 0, 1⟩]
    ∃ header, ofBinary binary = .ok header ∧ header.tables = tables ∧
      (header.byOffset.map fun table => header.content binary table.kind).flatten =
        [0xA, 0xB, 0xC] := by
  intro binary tables
  have hspell : Codec.spell (layout 6 tables) ++ [0xA, 0xB, 0xC, 0xD] = binary := by cbv
  have hspelled : Spelled (layout 6 tables) binary [0xA, 0xB, 0xC, 0xD] :=
    hspell ▸ Codec.spelled_spell (layout 6 tables) _
  have hpartition : IsPartition 0 3 tables := by
    have hordered : IsPartition 0 3 [⟨.signatures, 0, 1⟩, ⟨.identifiers, 1, 2⟩] := by
      rw [IsPartition.cons_iff (by decide) (by decide), IsPartition.cons_iff (by decide) (by decide),
        IsPartition.nil_iff]
      decide
    exact hordered.of_perm (.swap ..)
  have hdirectory : IsDirectory tables := ⟨by unfold Table.Fits; decide, by decide, by decide⟩
  obtain ⟨-, -, hheader⟩ := exists_ofBinary_iff_isHeader binary
  have h : ofBinary binary = .ok ⟨6, tables, 15, 18⟩ := ofBinary_eq_ok_iff_isHeader.mpr
    ⟨6, _, 3, ⟨by decide, by decide, hdirectory, hspelled, hpartition, by decide⟩, rfl, rfl, rfl⟩
  exact ⟨_, h, rfl, (hheader _ h).2.2⟩

end Header

end MovePack.Bytecode
