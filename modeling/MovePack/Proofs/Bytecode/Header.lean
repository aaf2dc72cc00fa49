/-
# What is read as a header

A header is the marking bytes, a version and a directory, whose entries are spelled one after the
other.  Reading succeeds exactly on the spellings of directories that name every kind at most once,
have no empty table, and whose tables follow one another in some order; and when enough bytes
follow them.
-/
import Mathlib.Data.List.Perm.Subperm
import MovePack.Bytecode.Header
import MovePack.Proofs.Codec.Format
import MovePack.Proofs.Except

/-- With different keys, a member of a list is found by its key. -/
lemma List.find?_eq_some_of_nodup_map {α κ : Type} [DecidableEq κ] {key : α → κ} {l : List α}
    (hnodup : (l.map key).Nodup) {a : α} (ha : a ∈ l) :
    (l.find? fun b => key b = key a) = some a := by
  induction l with
  | nil => cases ha
  | cons first l ih =>
    obtain ⟨hnew, hnodup⟩ := nodup_cons.mp hnodup
    obtain rfl | ha := mem_cons.mp ha
    · exact find?_cons_of_pos (by simp)
    · have hne : key first ≠ key a := fun heq => hnew (heq ▸ mem_map_of_mem ha)
      rw [find?_cons_of_neg (by simpa using hne), ih hnodup ha]

namespace MovePack.Bytecode

open Codec (Piece Reader Spelled maxCount spelled_append spelled_cons spelled_singleton)

lemma TableKind.ofNumber?_eq_some_iff {n : Nat} {kind : TableKind} :
    ofNumber? n = some kind ↔ kind.number = n := by
  constructor
  · intro h
    simpa using List.find?_some h
  · rintro rfl
    cases kind <;> rfl

lemma TableKind.number_lt (kind : TableKind) : kind.number < 2 ^ (8 * 1) := by
  cases kind <;> decide

lemma TableKind.mem_all (kind : TableKind) : kind ∈ all := by
  cases kind <;> decide

/-- Different kinds are no more than there are kinds. -/
lemma TableKind.length_le_of_nodup {kinds : List TableKind} (h : kinds.Nodup) :
    kinds.length ≤ maxCount := by
  have hle := (h.subperm fun kind _ => kind.mem_all).length_le
  exact hle.trans (by decide)

namespace Table

/-- The layout of an entry of the directory. -/
def layout (table : Table) : List Piece :=
  [.plain (Bytes.littleEndian 1 table.kind.number), .number table.offset, .number table.length]

/-- The numbers of an entry can be written. -/
def Fits (table : Table) : Prop := table.offset ≤ maxCount ∧ table.length ≤ maxCount

end Table

namespace Header

variable {α : Type} {input rest : Bytes}

/-- The layout of what precedes the contents of the tables. -/
def layout (word : Nat) (tables : List Table) : List Piece :=
  [.plain magic, .plain (Bytes.littleEndian 4 word), .number tables.length] ++
    tables.flatMap Table.layout

/-- The directory can be read: every kind is named at most once and no table is empty. -/
structure IsDirectory (tables : List Table) : Prop where
  fits : ∀ table ∈ tables, table.Fits
  nonempty : ∀ table ∈ tables, 0 < table.length
  nodup : (tables.map Table.kind).Nodup

/-- The version is supported.  Of the number that stands for it the highest byte does not count. -/
def IsSupported (word : Nat) : Prop :=
  minVersion ≤ word % Nat.pow 2 24 ∧ word % Nat.pow 2 24 ≤ maxVersion

instance (word : Nat) : Decidable (IsSupported word) := inferInstanceAs (Decidable (_ ∧ _))

lemma part_eq_ok_iff {r : Reader α} {a : α} :
    part r input = .ok (a, rest) ↔ r.read input = (.ok a, rest) := by
  rw [part]
  rcases r.read input with ⟨_ | b, mid⟩ <;> simp

/-! ## The directory -/

lemma checkEntry_eq_ok_iff {before : List Table} {number offset length : Nat} {table : Table} :
    checkEntry before (number, offset, length) = .ok table ↔
      table.kind.number = number ∧ table.offset = offset ∧ table.length = length ∧
        table.kind ∉ before.map Table.kind ∧ 0 < table.length := by
  rw [checkEntry]
  constructor
  · intro h
    split at h
    next => cases h
    next kind hkind =>
      split_ifs at h with hdouble hempty
      cases h
      exact ⟨TableKind.ofNumber?_eq_some_iff.mp hkind, rfl, rfl, by simpa using hdouble,
        Nat.pos_of_ne_zero hempty⟩
  · rintro ⟨hnumber, rfl, rfl, hnew, hpos⟩
    rw [TableKind.ofNumber?_eq_some_iff.mpr hnumber]
    change (if _ then _ else _) = _
    rw [if_neg (by simpa using hnew), if_neg hpos.ne']

lemma read_entry_eq_ok_iff {number offset length : Nat} :
    entry.read input = (.ok (number, offset, length), rest) ↔
      number < 2 ^ (8 * 1) ∧ offset ≤ maxCount ∧ length ≤ maxCount ∧
        Spelled [.plain (Bytes.littleEndian 1 number), .number offset, .number length]
          input rest := by
  simp only [entry, Reader.u8, Reader.read_bind_eq_ok_iff, Reader.read_uint_eq_ok_iff,
    Reader.read_uleb_eq_ok_iff, Reader.read_pure, Prod.mk.injEq, Except.ok.injEq, spelled_cons,
    Codec.spelledBy_plain, Codec.spelled_nil]
  constructor
  · rintro ⟨_, mid, ⟨hnumber, hkind⟩, _, mid', ⟨hoffset, hmid⟩, _, last, ⟨hlength, hmid'⟩,
      ⟨rfl, rfl, rfl⟩, rfl⟩
    exact ⟨hnumber, hoffset, hlength, mid, hkind, mid', hmid, last, hmid', rfl⟩
  · rintro ⟨hnumber, hoffset, hlength, mid, hkind, mid', hmid, last, hmid', rfl⟩
    exact ⟨_, mid, ⟨hnumber, hkind⟩, _, mid', ⟨hoffset, hmid⟩, _, last, ⟨hlength, hmid'⟩,
      ⟨rfl, rfl, rfl⟩, rfl⟩

/-- Further entries are read when the directory that they complete can be read. -/
lemma readTables_eq_ok_iff {before tables : List Table} {count : Nat}
    (hbefore : IsDirectory before) :
    readTables before count input = .ok (tables, rest) ↔
      ∃ more, tables = before ++ more ∧ more.length = count ∧ IsDirectory tables ∧
        Spelled (more.flatMap Table.layout) input rest := by
  -- a new entry is checked against those before it, which therefore vary in the induction
  induction count generalizing before input with
  | zero =>
    simp only [readTables, Except.ok.injEq, Prod.mk.injEq, List.length_eq_zero_iff]
    constructor
    · rintro ⟨rfl, rfl⟩
      exact ⟨[], by simp, rfl, hbefore, rfl⟩
    · rintro ⟨_, rfl, rfl, -, hspelled⟩
      exact ⟨by simp, hspelled⟩
  | succ count ih =>
    simp only [readTables, Except.bind_eq_ok_iff, Prod.exists, part_eq_ok_iff,
      read_entry_eq_ok_iff, checkEntry_eq_ok_iff]
    constructor
    · rintro ⟨_, _, _, mid, ⟨-, hoffset, hlength, hentry⟩, table, ⟨rfl, rfl, rfl, hnew, hpos⟩,
        hmore⟩
      have hdirectory : IsDirectory (before ++ [table]) :=
        ⟨List.forall_mem_append.mpr ⟨hbefore.fits, by simpa using ⟨hoffset, hlength⟩⟩,
          List.forall_mem_append.mpr ⟨hbefore.nonempty, by simpa using hpos⟩,
          by simpa [List.nodup_append, hbefore.nodup] using hnew⟩
      obtain ⟨more, rfl, hcount, htables, hspelled⟩ := (ih hdirectory).mp hmore
      refine ⟨table :: more, by simp, by simpa using hcount, htables, ?_⟩
      rw [List.flatMap_cons, spelled_append]
      exact ⟨mid, hentry, hspelled⟩
    · rintro ⟨more, rfl, hcount, htables, hspelled⟩
      obtain ⟨table, more, rfl⟩ := List.exists_cons_of_length_eq_add_one hcount
      rw [List.flatMap_cons, spelled_append] at hspelled
      obtain ⟨mid, hentry, hspelled⟩ := hspelled
      have hmem : table ∈ before ++ table :: more := by simp
      have hnodup := htables.nodup
      rw [List.map_append, List.map_cons, List.nodup_append] at hnodup
      have hnew : table.kind ∉ before.map Table.kind :=
        fun h => hnodup.2.2 _ h _ (List.mem_cons_self) rfl
      have hdirectory : IsDirectory (before ++ [table]) :=
        ⟨fun t ht => htables.fits t (by simp at ht ⊢; tauto),
          fun t ht => htables.nonempty t (by simp at ht ⊢; tauto),
          by simpa [List.nodup_append, hbefore.nodup] using hnew⟩
      exact ⟨_, _, _, mid, ⟨table.kind.number_lt, (htables.fits _ hmem).1,
        (htables.fits _ hmem).2, hentry⟩, table, ⟨rfl, rfl, rfl, hnew, htables.nonempty _ hmem⟩,
        (ih hdirectory).mpr ⟨more, by simp, by simpa using hcount, htables, hspelled⟩⟩

/-! ## The header -/

/-- What is read as a header, and what is found in it. -/
theorem ofBinary_eq_ok_iff {binary : Bytes} {header : Header} :
    ofBinary binary = .ok header ↔
      ∃ word rest length, word < 2 ^ (8 * 4) ∧ IsSupported word ∧
        header.tables.length ≤ maxCount ∧ IsDirectory header.tables ∧
        Spelled (layout word header.tables) binary rest ∧
        contentLength? header.tables = some length ∧ length ≤ rest.length ∧
        header.version = word % Nat.pow 2 24 ∧
        header.contentStart = binary.length - rest.length ∧
        header.contentEnd = header.contentStart + length := by
  have hempty : IsDirectory [] := ⟨by simp, by simp, by simp⟩
  simp only [ofBinary, Except.bind_eq_ok_iff, Except.refuse_eq_ok_iff, Prod.exists, part_eq_ok_iff,
    Reader.read_take_eq_ok_iff, Reader.read_uint_eq_ok_iff, Reader.read_uleb_eq_ok_iff,
    readTables_eq_ok_iff hempty, List.nil_append]
  constructor
  · rintro ⟨_, _, ⟨-, rfl⟩, hmark, word, afterWord, ⟨hword, rfl⟩, hsupported, _, afterCount,
      ⟨hcount, hnumber⟩, tables, rest, ⟨_, rfl, rfl, hdirectory, hspelled⟩, h⟩
    obtain rfl := not_not.mp hmark
    split at h
    next => cases h
    next length hlength =>
      obtain ⟨hlong, h⟩ := Except.refuse_eq_ok_iff.mp h
      cases h
      refine ⟨word, rest, length, hword, by simpa [IsSupported] using hsupported, hcount,
        hdirectory, ?_, hlength, Nat.not_lt.mp hlong, rfl, rfl, rfl⟩
      rw [layout, spelled_append]
      exact ⟨afterCount, ⟨_, rfl, _, rfl, _, hnumber, rfl⟩, hspelled⟩
  · rintro ⟨word, rest, length, hword, hsupported, hcount, hdirectory, hspelled, hlength, hlong,
      hversion, hstart, hend⟩
    obtain ⟨version, tables, start, finish⟩ := header
    simp only at hversion hstart hend hcount hdirectory hspelled hlength
    subst hversion hstart hend
    rw [layout, spelled_append] at hspelled
    obtain ⟨_, ⟨_, rfl, _, rfl, afterCount, hnumber, rfl⟩, hspelled⟩ := hspelled
    refine ⟨magic, _, ⟨rfl, rfl⟩, by simp, word, _, ⟨hword, rfl⟩,
      by simpa [IsSupported] using hsupported, _, afterCount, ⟨hcount, hnumber⟩, tables, rest,
      ⟨_, rfl, rfl, hdirectory, hspelled⟩, ?_⟩
    rw [hlength]
    exact Except.refuse_eq_ok_iff.mpr ⟨Nat.not_lt.mpr hlong, rfl⟩

end Header

end MovePack.Bytecode
