/-
# Binaries of modules

A binary holds a module when it has a header and tables of addresses, names and module handles, each
a row of values and nothing else.  A handle is the place of an address and the place of a name; one
of them, at a place that is given behind the tables, is that of the module itself, and the others
are those of the modules it depends on.  This says what a descriptor is read from, without the
reader, and is what the reader accepts.
-/
import MovePack.Bundle.Descriptor
import MovePack.Proofs.Bytecode.Linkage
import MovePack.Proofs.Bytecode.Tiling

namespace MovePack

open Bytecode (Header Table TableKind)
open Codec (Piece Reader Spelled maxCount spell spelled_append spelled_cons)

/-! ## The contents of tables -/

namespace Bytecode.Header

variable {binary rest content : Bytes} {tables : List Table} {kind : TableKind} {header : Header}
  {word length : Nat}

/-- Of the bytes behind the directory, these are the content of the table of a kind; without such a
table they are none. -/
def IsContent (tables : List Table) (rest : Bytes) (kind : TableKind) (content : Bytes) : Prop :=
  (∃ table ∈ tables, table.kind = kind ∧ content = (rest.drop table.offset).take table.length) ∨
    (∀ table ∈ tables, table.kind ≠ kind) ∧ content = []

/-- What the header says of a binary is what the bytes behind its directory are. -/
lemma IsHeader.drop_contentStart (h : IsHeader binary word tables rest length) :
    binary.drop (binary.length - rest.length) = rest := by
  obtain ⟨front, rfl⟩ := h.spelled.exists_append
  simp

lemma IsHeader.isContent_iff (h : IsHeader binary word header.tables rest length)
    (hstart : header.contentStart = binary.length - rest.length) :
    IsContent header.tables rest kind content ↔ content = header.content binary kind := by
  have hrest := h.drop_contentStart
  rw [← hstart] at hrest
  by_cases hkind : ∃ table ∈ header.tables, table.kind = kind
  · obtain ⟨table, htable, rfl⟩ := hkind
    rw [content_eq h.directory.nodup htable, hrest]
    constructor
    · rintro (⟨other, hother, heq, rfl⟩ | ⟨hnone, -⟩)
      · rw [List.inj_on_of_nodup_map h.directory.nodup hother htable heq]
      · exact absurd rfl (hnone table htable)
    · rintro rfl
      exact .inl ⟨table, htable, rfl, rfl⟩
  · have hfind : header.find? kind = none := by
      rw [find?, List.find?_eq_none]
      simpa using hkind
    rw [Header.content, hfind]
    push Not at hkind
    constructor
    · rintro (⟨table, htable, heq, -⟩ | ⟨-, rfl⟩)
      · exact absurd heq (hkind table htable)
      · rfl
    · rintro rfl
      exact .inr ⟨hkind, rfl⟩

end Bytecode.Header

/-! ## What a binary says about a module -/

namespace CompiledModule

variable {binary rest table trailer : Bytes} {tables : List Table} {word length own : Nat}
  {addresses : List Address} {names : List Text} {handles : List (Nat × Nat)} {header : Header}
  {id : ModuleId} {ids dependencies : List ModuleId} {m : CompiledModule}

/-- The place of the module's own handle: the first one in old versions, which do not give it, and
then what stands behind the tables. -/
def IsOwnPlace (version : Nat) (trailer : Bytes) (own : Nat) : Prop :=
  if version < selfIndexVersion then own = 0
  else own ≤ maxCount ∧ ∃ rest, (Piece.number own).SpelledBy trailer rest

/-- The tables and the bytes behind the directory give these addresses, names and handles, and the
place of the module's own handle. -/
structure HasLinkage (word : Nat) (tables : List Table) (rest : Bytes) (length : Nat)
    (addresses : List Address) (names : List Text) (handles : List (Nat × Nat)) (own : Nat) :
    Prop where
  /-- The addresses stand one after the other. -/
  addresses : Header.IsContent tables rest .addresses (addresses.map Address.bytes).flatten
  /-- The names are Unicode text, each behind the count of its bytes. -/
  names : ∃ content, Header.IsContent tables rest .identifiers content ∧
    (∀ t ∈ names, (∀ c ∈ t, c.isSurrogate = false) ∧ (Utf8.bytes t).length ≤ maxCount) ∧
    Spelled (names.flatMap nameLayout) content []
  /-- A handle is two numbers. -/
  handles : ∃ content, Header.IsContent tables rest .moduleHandles content ∧
    (∀ h ∈ handles, h.1 ≤ maxCount ∧ h.2 ≤ maxCount) ∧
    Spelled (handles.flatMap handleLayout) content []
  /-- What follows the tables may give the place of the module's own handle. -/
  own : IsOwnPlace (word % Nat.pow 2 24) (rest.drop length) own

/-- The handle is the places of the module's address and name. -/
def RefersTo (addresses : List Address) (names : List Text) (h : Nat × Nat) (id : ModuleId) :
    Prop :=
  addresses[h.1]? = some id.address ∧ names[h.2]? = some id.name

/-- The binary holds the module with these dependencies: it has a header, its handles refer to
modules, the module itself is the one at the given place, and the dependencies are the others. -/
def IsModule (binary : Bytes) (id : ModuleId) (dependencies : List ModuleId) : Prop :=
  ∃ word tables rest length addresses names handles before after,
    Header.IsHeader binary word tables rest length ∧
    HasLinkage word tables rest length addresses names handles before.length ∧
    List.Forall₂ (RefersTo addresses names) handles (before ++ id :: after) ∧
    dependencies = before ++ after

/-! ## Reading it -/

lemma spelled_addresses_iff :
    Spelled (addresses.flatMap addressLayout) table rest ↔
      table = (addresses.map Address.bytes).flatten ++ rest := by
  induction addresses generalizing table with
  | nil => rfl
  | cons a addresses ih =>
    rw [List.flatMap_cons, spelled_append]
    simp [addressLayout, ih]

lemma readAddresses_eq_ok_iff :
    readAddresses table = .ok addresses ↔ table = (addresses.map Address.bytes).flatten := by
  constructor
  · intro h
    rw [readAddresses] at h
    split_ifs at h
    obtain ⟨-, hspelled⟩ :=
      (readTable_eq_ok_iff .address spell_addressLayout_ne_nil).mp h
    simpa using spelled_addresses_iff.mp hspelled
  · rintro rfl
    have hspell : spell (addresses.flatMap addressLayout) =
        (addresses.map Address.bytes).flatten := by
      simpa using
        spelled_addresses_iff.mp (Codec.spelled_spell (addresses.flatMap addressLayout) [])
    exact hspell ▸ readAddresses_spell addresses

lemma readSelfIndex_eq_ok_iff {version : Nat} :
    readSelfIndex version trailer = .ok own ↔ IsOwnPlace version trailer own := by
  rw [readSelfIndex, IsOwnPlace]
  split_ifs
  · rw [Except.ok.injEq, eq_comm]
  · have hread : (Reader.uleb.read trailer).1 = .ok own ↔
        ∃ rest, Reader.uleb.read trailer = (.ok own, rest) := by
      rcases Reader.uleb.read trailer with ⟨outcome, rest⟩
      simp
    simp only [hread, Reader.read_uleb_eq_ok_iff, exists_and_left]

lemma readTables_eq_ok_iff :
    readTables header binary = .ok (addresses, names, handles, own) ↔
      header.content binary .addresses = (addresses.map Address.bytes).flatten ∧
      ((∀ t ∈ names, (∀ c ∈ t, c.isSurrogate = false) ∧ (Utf8.bytes t).length ≤ maxCount) ∧
        Spelled (names.flatMap nameLayout) (header.content binary .identifiers) []) ∧
      ((∀ h ∈ handles, h.1 ≤ maxCount ∧ h.2 ≤ maxCount) ∧
        Spelled (handles.flatMap handleLayout) (header.content binary .moduleHandles) []) ∧
      IsOwnPlace header.version (header.trailer binary) own := by
  simp only [readTables, Except.bind_eq_ok_iff, readAddresses_eq_ok_iff,
    readTable_eq_ok_iff Codec.IsFormat.text spell_nameLayout_ne_nil,
    readTable_eq_ok_iff isFormat_handle spell_handleLayout_ne_nil, readSelfIndex_eq_ok_iff]
  constructor
  · rintro ⟨_, haddresses, _, hnames, _, hhandles, _, hown, h⟩
    cases h
    exact ⟨haddresses, hnames, hhandles, hown⟩
  · rintro ⟨haddresses, hnames, hhandles, hown⟩
    exact ⟨_, haddresses, _, hnames, _, hhandles, _, hown, rfl⟩

lemma hasLinkage_iff (h : Header.IsHeader binary word header.tables rest length)
    (hversion : header.version = word % Nat.pow 2 24)
    (hstart : header.contentStart = binary.length - rest.length)
    (hend : header.contentEnd = header.contentStart + length) :
    HasLinkage word header.tables rest length addresses names handles own ↔
      readTables header binary = .ok (addresses, names, handles, own) := by
  have htrailer : header.trailer binary = rest.drop length := by
    rw [Header.trailer, hend, ← List.drop_drop, hstart, h.drop_contentStart]
  rw [readTables_eq_ok_iff, htrailer, hversion]
  constructor
  · rintro ⟨haddresses, ⟨_, hnamesContent, hnames⟩, ⟨_, hhandlesContent, hhandles⟩, hown⟩
    rw [h.isContent_iff hstart] at haddresses hnamesContent hhandlesContent
    subst hnamesContent hhandlesContent
    exact ⟨haddresses.symm, hnames, hhandles, hown⟩
  · rintro ⟨haddresses, hnames, hhandles, hown⟩
    exact ⟨(h.isContent_iff hstart).mpr haddresses.symm,
      ⟨_, (h.isContent_iff hstart).mpr rfl, hnames⟩,
      ⟨_, (h.isContent_iff hstart).mpr rfl, hhandles⟩, hown⟩

/-! ## Handles -/

lemma refersTo_iff (m : CompiledModule) {h : Nat × Nat}
    (hvalid : h.1 < m.addresses.length ∧ h.2 < m.identifiers.length) :
    RefersTo m.addresses m.identifiers h id ↔ id = m.idOf h hvalid := by
  rw [RefersTo, List.getElem?_eq_getElem hvalid.1, List.getElem?_eq_getElem hvalid.2, idOf]
  obtain ⟨address, name⟩ := id
  simp [eq_comm]

lemma RefersTo.valid {h : Nat × Nat} (hid : RefersTo addresses names h id) :
    h.1 < addresses.length ∧ h.2 < names.length :=
  ⟨(List.getElem?_eq_some_iff.mp hid.1).1, (List.getElem?_eq_some_iff.mp hid.2).1⟩

/-- The handles of a module refer to its modules and to no others. -/
lemma forall₂_refersTo_iff (m : CompiledModule) :
    List.Forall₂ (RefersTo m.addresses m.identifiers) m.handles ids ↔ ids = m.ids := by
  have hpmap : ∀ (handles : List (Nat × Nat)) (ids : List ModuleId)
      (hvalid : ∀ h ∈ handles, h.1 < m.addresses.length ∧ h.2 < m.identifiers.length),
      List.Forall₂ (RefersTo m.addresses m.identifiers) handles ids ↔
        ids = handles.pmap m.idOf hvalid := by
    intro handles
    induction handles with
    | nil => simp
    | cons h handles ih =>
      intro ids hvalid
      obtain ⟨hfirst, hrest⟩ := List.forall_mem_cons.mp hvalid
      rw [List.forall₂_cons_left_iff, List.pmap_cons]
      simp only [m.refersTo_iff hfirst, ih _ hrest]
      constructor
      · rintro ⟨_, _, rfl, rfl, rfl⟩
        rfl
      · rintro rfl
        exact ⟨_, _, rfl, rfl, rfl⟩
  exact hpmap _ _ m.handles_valid

/-- The handles split at the module's own one: the others are its dependencies. -/
lemma exists_ids_eq (m : CompiledModule) : ∃ before after, m.ids = before ++ m.id :: after ∧
    before.length = m.selfIndex ∧ m.dependencies = before ++ after := by
  obtain ⟨hown, hid⟩ := List.getElem?_eq_some_iff.mp m.getElem?_ids_selfIndex
  refine ⟨m.ids.take m.selfIndex, m.ids.drop (m.selfIndex + 1), ?_, ?_, ?_⟩
  · rw [← hid, List.getElem_cons_drop, List.take_append_drop]
  · rw [List.length_take]
    omega
  · rw [CompiledModule.dependencies, List.eraseIdx_eq_take_drop_succ]

lemma id_and_dependencies_of_ids_eq {before after : List ModuleId}
    (h : m.ids = before ++ id :: after) (hself : m.selfIndex = before.length) :
    m.id = id ∧ m.dependencies = before ++ after := by
  have hid := m.getElem?_ids_selfIndex
  rw [h, hself] at hid
  rw [CompiledModule.dependencies, h, hself]
  exact ⟨by simpa [eq_comm] using hid, by simp [List.eraseIdx_append_of_length_le]⟩

/-- The binary is read as a module exactly when it holds one. -/
lemma exists_ofBinary_iff_isModule :
    (∃ m, ofBinary binary = .ok m ∧ m.id = id ∧ m.dependencies = dependencies) ↔
      IsModule binary id dependencies := by
  constructor
  · rintro ⟨m, hm, rfl, rfl⟩
    obtain ⟨header, hheader, -, htables⟩ := ofBinary_eq_ok_iff.mp hm
    obtain ⟨word, rest, length, hisHeader, hversion, hstart, hend⟩ :=
      Header.ofBinary_eq_ok_iff_isHeader.mp hheader
    have hlinkage := (hasLinkage_iff hisHeader hversion hstart hend).mpr htables
    obtain ⟨before, after, hids, hself, hdependencies⟩ := m.exists_ids_eq
    exact ⟨word, header.tables, rest, length, m.addresses, m.identifiers, m.handles, before, after,
      hisHeader, hself.symm ▸ hlinkage, m.forall₂_refersTo_iff.mpr hids.symm, hdependencies⟩
  · rintro ⟨word, tables, rest, length, addresses, names, handles, before, after, hisHeader,
      hlinkage, hrefer, rfl⟩
    let header : Header := ⟨word % Nat.pow 2 24, tables, binary.length - rest.length,
      binary.length - rest.length + length⟩
    have hheader : Header.ofBinary binary = .ok header :=
      Header.ofBinary_eq_ok_iff_isHeader.mpr ⟨word, rest, length, hisHeader, rfl, rfl, rfl⟩
    have hcount := hrefer.length_eq
    rw [List.length_append, List.length_cons] at hcount
    let m : CompiledModule :=
      { version := word % Nat.pow 2 24
        addresses, identifiers := names, handles
        selfIndex := before.length
        handles_valid := fun h hh =>
          let ⟨_, _, hid⟩ := List.Forall₂.exists_of_mem_left hrefer hh
          hid.valid
        self_valid := by omega }
    have hids : before ++ id :: after = m.ids := m.forall₂_refersTo_iff.mp hrefer
    have htables : readTables header binary = .ok (addresses, names, handles, before.length) :=
      (hasLinkage_iff hisHeader rfl rfl rfl).mp hlinkage
    exact ⟨m, ofBinary_eq_ok_iff.mpr ⟨header, hheader, rfl, htables⟩,
      id_and_dependencies_of_ids_eq hids.symm rfl⟩

/-- What is written as the linkage of a module holds it. -/
lemma isModule_of_moduleBinary
    (h : Bytecode.Assembler.moduleBinary id dependencies = .ok binary) :
    IsModule binary id dependencies :=
  exists_ofBinary_iff_isModule.mp (exists_ofBinary_of_moduleBinary h)

end CompiledModule

/-- A descriptor is read from the binaries that hold the module. -/
lemma ModuleDescriptor.ofBinary_eq_ok_iff_isModule {code : Bytes} {d : ModuleDescriptor} :
    ModuleDescriptor.ofBinary code = .ok d ↔
      d.code = code ∧ CompiledModule.IsModule code d.id d.dependencies := by
  rw [← CompiledModule.exists_ofBinary_iff_isModule, ofBinary, Except.bind_eq_ok_iff]
  constructor
  · rintro ⟨m, hm, hd⟩
    cases hd
    exact ⟨rfl, m, hm, rfl, rfl⟩
  · rintro ⟨rfl, m, hm, hid, hdependencies⟩
    refine ⟨m, hm, ?_⟩
    rw [hid, hdependencies]
    rfl

end MovePack
