/-
# Assembled binaries

A binary that is put together from tables is the spelling of its header, the contents of the
tables, and what comes after them.  The reader finds the tables where the directory says: each
begins where the contents of those before it end, so the slice of a kind is the content that was
given for it.
-/
import MovePack.Bytecode.Assembler
import MovePack.Proofs.Bytecode.Header

namespace MovePack.Bytecode.Assembler

open Codec (Piece Spelled Written WriteFault maxCount spell spelled_spell)

/-- Tables with the numbers of their kinds, as the assembler takes them. -/
def numbered (tables : List (TableKind × Bytes)) : List (Int × Bytes) :=
  tables.map fun table => (table.1.number, table.2)

/-- The entries of the directory for tables that follow one another from an offset on. -/
def entries (offset : Nat) : List (TableKind × Bytes) → List Table
  | [] => []
  | (kind, content) :: rest =>
    ⟨kind, offset, content.length⟩ :: entries (offset + content.length) rest

/-- The contents of the tables, one after the other. -/
def contents (tables : List (TableKind × Bytes)) : Bytes := (tables.map Prod.snd).flatten

/-- The content that is given for a kind; a kind without a table has none. -/
def contentOf (tables : List (TableKind × Bytes)) (kind : TableKind) : Bytes :=
  match tables.find? fun table => table.1 = kind with
  | none => []
  | some table => table.2

variable {kind : TableKind} {content trailer bytes : Bytes} {tables : List (TableKind × Bytes)}
  {offset version : Nat}

lemma numbered_cons :
    numbered ((kind, content) :: tables) = ((kind.number : Int), content) :: numbered tables := rfl

@[simp] lemma contents_nil : contents [] = [] := rfl

@[simp] lemma contents_cons : contents ((kind, content) :: tables) = content ++ contents tables :=
  rfl

@[simp] lemma length_entries : (entries offset tables).length = tables.length := by
  induction tables generalizing offset with
  | nil => rfl
  | cons table tables ih => simp [entries, ih]

/-! ## The written bytes -/

lemma directory_eq_ok_iff :
    (directory offset (numbered tables)).toExcept = .ok bytes ↔
      (∀ table ∈ entries offset tables, table.Fits) ∧
        bytes = spell ((entries offset tables).flatMap Table.layout) := by
  induction tables generalizing offset bytes with
  | nil => simp [numbered, directory, entries, eq_comm]
  | cons table tables ih =>
    obtain ⟨kind, content⟩ := table
    simp only [numbered_cons, directory, entries, Written.toExcept_append_eq_ok_iff,
      Written.toExcept_uint_eq_ok_iff, Written.toExcept_uleb_eq_ok_iff, ih, List.forall_mem_cons,
      List.flatMap_cons, Codec.spell_append]
    constructor
    · rintro ⟨_, _, ⟨_, _, ⟨_, _, ⟨-, rfl⟩, ⟨hoffset, rfl⟩, rfl⟩, ⟨hlength, rfl⟩, rfl⟩,
        ⟨hrest, rfl⟩, rfl⟩
      exact ⟨⟨⟨hoffset, hlength⟩, hrest⟩, by simp [Table.layout, Piece.bytes]⟩
    · rintro ⟨⟨⟨hoffset, hlength⟩, hrest⟩, rfl⟩
      exact ⟨_, _, ⟨_, _, ⟨_, _, ⟨kind.number_lt, rfl⟩, ⟨hoffset, rfl⟩, rfl⟩, ⟨hlength, rfl⟩, rfl⟩,
        ⟨hrest, rfl⟩, by simp [Table.layout, Piece.bytes]⟩

/-- A binary is assembled when its version and all numbers of its header can be written. -/
lemma binary_eq_ok_iff :
    (binary (numbered tables) trailer version).toExcept = .ok bytes ↔
      version < 2 ^ (8 * 4) ∧ tables.length ≤ maxCount ∧
        (∀ table ∈ entries 0 tables, table.Fits) ∧
        bytes = spell (Header.layout version (entries 0 tables)) ++ contents tables ++ trailer := by
  have hcontents : ((numbered tables).map Prod.snd).flatten = contents tables := by
    simp [numbered, contents, Function.comp_def]
  have hcount : (numbered tables).length = tables.length := by simp [numbered]
  simp only [binary, hcontents, hcount, Written.toExcept_append_eq_ok_iff,
    Written.toExcept_fixed, Written.toExcept_uint_eq_ok_iff, Written.toExcept_uleb_eq_ok_iff,
    directory_eq_ok_iff, Except.ok.injEq]
  constructor
  · rintro ⟨_, _, ⟨_, _, ⟨_, _, ⟨_, _, ⟨_, _, rfl, ⟨hversion, rfl⟩, rfl⟩, ⟨htables, rfl⟩, rfl⟩,
      ⟨hentries, rfl⟩, rfl⟩, rfl, rfl⟩, rfl, rfl⟩
    exact ⟨hversion, htables, hentries, by simp [Header.layout, Piece.bytes]⟩
  · rintro ⟨hversion, htables, hentries, rfl⟩
    exact ⟨_, _, ⟨_, _, ⟨_, _, ⟨_, _, ⟨_, _, rfl, ⟨hversion, rfl⟩, rfl⟩, ⟨htables, rfl⟩, rfl⟩,
      ⟨hentries, rfl⟩, rfl⟩, rfl, rfl⟩, rfl, by simp [Header.layout, Piece.bytes]⟩

/-! ## The tables of the directory -/

lemma map_kind_entries : (entries offset tables).map Table.kind = tables.map Prod.fst := by
  induction tables generalizing offset with
  | nil => rfl
  | cons table tables ih => simp [entries, ih]

lemma forall_length_entries_pos (h : ∀ table ∈ tables, table.2 ≠ []) :
    ∀ table ∈ entries offset tables, 0 < table.length := by
  induction tables generalizing offset with
  | nil => simp [entries]
  | cons table tables ih =>
    obtain ⟨htable, htables⟩ := List.forall_mem_cons.mp h
    exact List.forall_mem_cons.mpr ⟨List.length_pos_of_ne_nil htable, ih htables⟩

lemma le_offset_of_mem_entries {table : Table} (h : table ∈ entries offset tables) :
    offset ≤ table.offset := by
  induction tables generalizing offset with
  | nil => simp [entries] at h
  | cons first tables ih =>
    rw [entries, List.mem_cons] at h
    obtain rfl | h := h
    · exact le_rfl
    · have := ih h
      omega

/-- The length of a table is one of the numbers of the directory. -/
lemma length_le_of_fits (hfits : ∀ table ∈ entries offset tables, table.Fits)
    (h : (kind, content) ∈ tables) : content.length ≤ maxCount := by
  induction tables generalizing offset with
  | nil => cases h
  | cons table tables ih =>
    obtain ⟨hfirst, hrest⟩ := List.forall_mem_cons.mp hfits
    obtain rfl | h := List.mem_cons.mp h
    · exact hfirst.2
    · exact ih hrest h

/-- The entries stand in the order of their places. -/
lemma pairwise_notAfter_entries :
    (entries offset tables).Pairwise fun a b => Header.notAfter a b = true := by
  induction tables generalizing offset with
  | nil => simp [entries]
  | cons table tables ih =>
    refine List.pairwise_cons.mpr ⟨fun later hlater => ?_, ih⟩
    have hle := le_offset_of_mem_entries hlater
    simp only [Header.notAfter, Bool.or_eq_true, Bool.and_eq_true, decide_eq_true_eq]
    omega

lemma tile?_entries :
    Header.tile? offset (entries offset tables) = some (offset + (contents tables).length) := by
  induction tables generalizing offset with
  | nil => rfl
  | cons table tables ih =>
    rw [entries, Header.tile?, if_pos rfl, ih]
    simp [contents, Nat.add_assoc]

lemma contentLength?_entries :
    Header.contentLength? (entries 0 tables) = some (contents tables).length := by
  rw [Header.contentLength?, List.mergeSort_of_pairwise pairwise_notAfter_entries, tile?_entries,
    Nat.zero_add]

/-- Between the contents that precede the tables and the bytes that follow them, the slice of a
kind is the content that is given for it. -/
lemma slice_entries (before after : Bytes) :
    (match (entries before.length tables).find? fun table => table.kind = kind with
      | none => []
      | some table => ((before ++ contents tables ++ after).drop table.offset).take table.length) =
      contentOf tables kind := by
  induction tables generalizing before with
  | nil => rfl
  | cons table tables ih =>
    obtain ⟨kind', content⟩ := table
    by_cases hkind : kind' = kind
    · simp [entries, contentOf, hkind]
    · have hnext := ih (before ++ content)
      simp only [List.length_append, List.append_assoc] at hnext
      simpa [entries, contentOf, hkind] using hnext

/-! ## Reading back -/

/-- **The tables of an assembled binary are read back.**  Different kinds and contents that are not
empty make a binary with a header, in which every kind has the content that is given for it, and
what comes after the contents is given too. -/
theorem exists_header_of_binary
    (hbinary : (binary (numbered tables) trailer version).toExcept = .ok bytes)
    (hversion : Header.IsSupported version) (hkinds : (tables.map Prod.fst).Nodup)
    (hcontents : ∀ table ∈ tables, table.2 ≠ []) :
    ∃ header, Header.ofBinary bytes = .ok header ∧ header.version = version % Nat.pow 2 24 ∧
      (∀ kind, header.content bytes kind = contentOf tables kind) ∧
      header.trailer bytes = trailer := by
  obtain ⟨hword, hcount, hfits, rfl⟩ := binary_eq_ok_iff.mp hbinary
  have hdirectory : Header.IsDirectory (entries 0 tables) :=
    ⟨hfits, forall_length_entries_pos hcontents, by rwa [map_kind_entries]⟩
  let start := (spell (Header.layout version (entries 0 tables))).length
  refine ⟨⟨version % Nat.pow 2 24, entries 0 tables, start, start + (contents tables).length⟩,
    ?_, rfl, fun kind => ?_, ?_⟩
  · refine Header.ofBinary_eq_ok_iff.mpr ⟨version, contents tables ++ trailer, _, hword, hversion,
      by simpa using hcount, hdirectory, ?_, contentLength?_entries, by simp, rfl, ?_, rfl⟩
    · rw [List.append_assoc]
      exact spelled_spell _ _
    · simp [start]
  · -- the contents begin where the header ends
    rw [← slice_entries [] trailer]
    rw [Header.content, Header.find?, List.length_nil]
    cases (entries 0 tables).find? fun table => table.kind = kind with
    | none => rfl
    | some table => simp [start, ← List.drop_drop]
  · simp [Header.trailer, start]

/-! ## What can be assembled -/

/-- The numbers of the directory are bounded by the length of all contents. -/
lemma fits_entries (h : offset + (contents tables).length ≤ maxCount) :
    ∀ table ∈ entries offset tables, table.Fits := by
  induction tables generalizing offset with
  | nil => simp [entries]
  | cons table tables ih =>
    rw [contents_cons, List.length_append] at h
    refine List.forall_mem_cons.mpr ⟨⟨?_, ?_⟩, ih (by omega)⟩
    · change offset ≤ maxCount
      omega
    · change table.2.length ≤ maxCount
      omega

lemma contentOf_of_mem (hkinds : (tables.map Prod.fst).Nodup) (h : (kind, content) ∈ tables) :
    contentOf tables kind = content := by
  rw [contentOf, List.find?_eq_some_of_nodup_map hkinds h]

lemma contentOf_of_notMem (h : kind ∉ tables.map Prod.fst) : contentOf tables kind = [] := by
  have hnone : (tables.find? fun table => table.1 = kind) = none := by
    simp only [List.find?_eq_none, decide_eq_true_eq]
    exact fun table htable heq => h (heq ▸ List.mem_map_of_mem htable)
  rw [contentOf, hnone]

/-- **Every binary can be assembled and is read back.**  Tables of different kinds that are not
empty, and whose contents are together within the limit of the format, make a binary for every
supported version and whatever comes after them.  It is read as a header in which every kind that
is given has its content, every other kind has none, and what comes after the contents is the
trailer. -/
theorem ofBinary_binary (tables : List (TableKind × Bytes)) (trailer : Bytes) (version : Nat)
    (hversion : version < 2 ^ 32) (hsupported : Header.IsSupported version)
    (hkinds : (tables.map Prod.fst).Nodup) (hcontents : ∀ table ∈ tables, table.2 ≠ [])
    (htotal : (contents tables).length ≤ maxCount) :
    ∃ bytes header, (binary (numbered tables) trailer version).toExcept = .ok bytes ∧
      Header.ofBinary bytes = .ok header ∧ header.version = version % Nat.pow 2 24 ∧
      (∀ kind content, (kind, content) ∈ tables → header.content bytes kind = content) ∧
      (∀ kind, kind ∉ tables.map Prod.fst → header.content bytes kind = []) ∧
      header.trailer bytes = trailer := by
  have hcount := TableKind.length_le_of_nodup hkinds
  rw [List.length_map] at hcount
  have hbinary : (binary (numbered tables) trailer version).toExcept = .ok _ :=
    binary_eq_ok_iff.mpr ⟨hversion, hcount, fits_entries (by omega), rfl⟩
  obtain ⟨header, hheader, hword, hcontent, htrailer⟩ :=
    exists_header_of_binary hbinary hsupported hkinds hcontents
  refine ⟨_, header, hbinary, hheader, hword, fun kind content h => ?_, fun kind h => ?_, htrailer⟩
  · rw [hcontent, contentOf_of_mem hkinds h]
  · rw [hcontent, contentOf_of_notMem h]

/-- Two tables and a trailer, for a version whose highest byte is set. -/
theorem ofBinary_binary_flavored :
    ∃ bytes header,
      (binary (numbered [(.metadata, [7]), (.identifiers, [1, 0x61])]) [9] (0x05000006 : Nat)).toExcept
        = .ok bytes ∧
      Header.ofBinary bytes = .ok header ∧ header.version = 6 ∧
      header.content bytes .identifiers = [1, 0x61] ∧ header.content bytes .signatures = [] ∧
      header.trailer bytes = [9] := by
  obtain ⟨bytes, header, hbinary, hheader, hversion, hgiven, hother, htrailer⟩ :=
    ofBinary_binary [(.metadata, [7]), (.identifiers, [1, 0x61])] [9] 0x05000006 (by decide)
      (by decide) (by decide) (by decide) (by decide)
  exact ⟨bytes, header, hbinary, hheader, hversion, hgiven _ _ (by decide), hother _ (by decide),
    htrailer⟩

end MovePack.Bytecode.Assembler
