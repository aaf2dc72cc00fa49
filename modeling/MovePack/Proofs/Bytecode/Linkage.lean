/-
# Reading back the linkage of a module

A module that is assembled from its identity and its dependencies is read back as these, whatever
is repeated among them.  The pools of addresses and names hold each of them once, a handle is a
place in both, and resolving the handles gives the list from which the pools were made.
-/
import Mathlib.Data.List.Permutation
import MovePack.Bytecode.Linkage
import MovePack.Proofs.Bundle.Dependency
import MovePack.Proofs.Bytecode.Assembler

namespace MovePack

open Codec (IsFormat Piece Reader Written WriteFault countedLayout maxCount spell spell_append
  Spelled spelled_append spelled_cons spelled_nil spelled_spell)

/-! ## Tables of values -/

section Values

variable {α : Type} {write : α → Written WriteFault} {reader : Reader α} {layout : α → List Piece}
  {Fits : α → Prop} {values : List α}

variable (layout) in
lemma length_spell_le_of_mem {v : α} (h : v ∈ values) :
    (spell (layout v)).length ≤ (spell (values.flatMap layout)).length := by
  obtain ⟨front, back, rfl⟩ := List.append_of_mem h
  simp only [List.flatMap_append, List.flatMap_cons, spell_append, List.length_append]
  omega

lemma length_le_length_spell (values : List α) (hlayout : ∀ v, spell (layout v) ≠ []) :
    values.length ≤ (spell (values.flatMap layout)).length := by
  induction values with
  | nil => simp
  | cons v values ih =>
    have hv := List.length_pos_of_ne_nil (hlayout v)
    simp only [List.flatMap_cons, spell_append, List.length_append, List.length_cons]
    omega

namespace CompiledModule

@[simp] lemma readMany_nil (reader : Reader α) (fuel : Nat) : readMany reader fuel [] = .ok [] := by
  cases fuel <;> rfl

lemma readMany_cons_eq_ok_iff {fuel : Nat} {b : UInt8} {input : Bytes} :
    readMany reader (fuel + 1) (b :: input) = .ok values ↔
      ∃ v rest more, reader.read (b :: input) = (.ok v, rest) ∧
        readMany reader fuel rest = .ok more ∧ values = v :: more := by
  rcases hread : reader.read (b :: input) with ⟨_ | v, rest⟩
  · simp [readMany, hread]
  · simp [readMany, hread, Except.map_eq_ok_iff, @eq_comm _ values]

/-- Nothing spells values but at least as many bytes. -/
lemma spelled_flatMap_nil_iff (hlayout : ∀ v, spell (layout v) ≠ []) :
    Spelled (values.flatMap layout) [] [] ↔ values = [] := by
  constructor
  · intro hspelled
    have hle := length_le_length_spell values hlayout
    have hnone := hspelled.length_le
    simp only [List.length_nil] at hnone
    exact List.length_eq_zero_iff.mp (by omega)
  · rintro rfl
    rfl

/-- Values are read up to the end of a table when this spells them, one after the other. -/
lemma readMany_eq_ok_iff (h : IsFormat write reader layout Fits)
    (hlayout : ∀ v, spell (layout v) ≠ []) {fuel : Nat} {input : Bytes}
    (hfuel : input.length ≤ fuel) :
    readMany reader fuel input = .ok values ↔
      (∀ v ∈ values, Fits v) ∧ Spelled (values.flatMap layout) input [] := by
  have hempty : ∀ {values : List α}, (.ok [] : Except Codec.ReadFault (List α)) = .ok values ↔
      (∀ v ∈ values, Fits v) ∧ Spelled (values.flatMap layout) [] [] := by
    intro values
    rw [spelled_flatMap_nil_iff hlayout, Except.ok.injEq]
    constructor
    · rintro rfl
      exact ⟨by simp, rfl⟩
    · exact fun hvalues => hvalues.2.symm
  -- every value takes at least one byte, so the room that is left stays enough
  induction fuel generalizing values input with
  | zero =>
    obtain rfl := List.length_eq_zero_iff.mp (Nat.le_zero.mp hfuel)
    exact hempty
  | succ fuel ih =>
    cases input with
    | nil => exact (readMany_nil reader _).symm ▸ hempty
    | cons b input =>
      have hshorter : ∀ {v rest}, Spelled (layout v) (b :: input) rest → rest.length ≤ fuel := by
        intro v rest hv
        have hle := hv.length_le
        have hpos := List.length_pos_of_ne_nil (hlayout v)
        omega
      rw [readMany_cons_eq_ok_iff]
      constructor
      · rintro ⟨v, rest, more, hread, hmore, rfl⟩
        obtain ⟨hv, hfirst⟩ := (h.read_iff _ _ _).mp hread
        obtain ⟨hvalues, hothers⟩ := (ih (hshorter hfirst)).mp hmore
        exact ⟨List.forall_mem_cons.mpr ⟨hv, hvalues⟩, spelled_append.mpr ⟨rest, hfirst, hothers⟩⟩
      · rintro ⟨hvalues, hspelled⟩
        cases values with
        | nil => cases hspelled
        | cons v more =>
          obtain ⟨hv, hvalues⟩ := List.forall_mem_cons.mp hvalues
          obtain ⟨rest, hfirst, hothers⟩ := spelled_append.mp hspelled
          exact ⟨v, rest, more, (h.read_iff _ _ _).mpr ⟨hv, hfirst⟩,
            (ih (hshorter hfirst)).mpr ⟨hvalues, hothers⟩, rfl⟩

/-- A table is read as the values that it spells. -/
lemma readTable_eq_ok_iff (h : IsFormat write reader layout Fits)
    (hlayout : ∀ v, spell (layout v) ≠ []) {table : Bytes} :
    readTable reader table = .ok values ↔
      (∀ v ∈ values, Fits v) ∧ Spelled (values.flatMap layout) table [] :=
  readMany_eq_ok_iff h hlayout le_rfl

/-- A table that spells values is read as these. -/
lemma readTable_spell (h : IsFormat write reader layout Fits)
    (hlayout : ∀ v, spell (layout v) ≠ []) (hvalues : ∀ v ∈ values, Fits v) :
    readTable reader (spell (values.flatMap layout)) = .ok values :=
  (readTable_eq_ok_iff h hlayout).mpr
    ⟨hvalues, by simpa using spelled_spell (values.flatMap layout) []⟩

end CompiledModule

end Values

namespace CompiledModule

/-- The layout of a module handle. -/
def handleLayout (h : Nat × Nat) : List Piece := [.number h.1, .number h.2]

/-- The layout of a name. -/
def nameLayout (name : Text) : List Piece := countedLayout (Utf8.bytes name)

/-- The layout of an address. -/
def addressLayout (a : Address) : List Piece := [.plain a.bytes]

lemma spell_handleLayout_ne_nil (h : Nat × Nat) : spell (handleLayout h) ≠ [] := by
  simp [handleLayout, Piece.bytes, (Codec.isNumeral_ulebBytes h.1).ne_nil]

lemma spell_nameLayout_ne_nil (name : Text) : spell (nameLayout name) ≠ [] := by
  simp [nameLayout, countedLayout, Piece.bytes, (Codec.isNumeral_ulebBytes _).ne_nil]

lemma spell_addressLayout (a : Address) : spell (addressLayout a) = a.bytes := by
  simp [addressLayout, Piece.bytes]

lemma spell_addressLayout_ne_nil (a : Address) : spell (addressLayout a) ≠ [] := by
  have hlength := a.length_bytes
  rw [spell_addressLayout]
  rintro h
  simp [h] at hlength

lemma isFormat_handle :
    IsFormat (fun h : Nat × Nat => Written.uleb h.1 ++ Written.uleb h.2) handleReader handleLayout
      (fun h => h.1 ≤ maxCount ∧ h.2 ≤ maxCount) where
  write_eq h hh := by
    rw [Written.uleb_of_le hh.1, Written.uleb_of_le hh.2, Written.complete_append]
    simp [handleLayout, Piece.bytes]
  read_iff input h rest := by
    obtain ⟨address, name⟩ := h
    simp only [handleReader, Reader.read_bind_eq_ok_iff, Reader.read_uleb_eq_ok_iff,
      Reader.read_pure, Prod.mk.injEq, Except.ok.injEq, handleLayout, spelled_cons, spelled_nil]
    constructor
    · rintro ⟨_, mid, ⟨haddress, hmid⟩, _, last, ⟨hname, hlast⟩, ⟨rfl, rfl⟩, rfl⟩
      exact ⟨⟨haddress, hname⟩, mid, hmid, last, hlast, rfl⟩
    · rintro ⟨⟨haddress, hname⟩, mid, hmid, last, hlast, rfl⟩
      exact ⟨_, mid, ⟨haddress, hmid⟩, _, last, ⟨hname, hlast⟩, ⟨rfl, rfl⟩, rfl⟩

lemma readAddresses_spell (addresses : List Address) :
    readAddresses (spell (addresses.flatMap addressLayout)) = .ok addresses := by
  have hlength : (spell (addresses.flatMap addressLayout)).length =
      addresses.length * Address.size := by
    induction addresses with
    | nil => rfl
    | cons a addresses ih =>
      have ha : a.bytes.length = Address.size := a.length_bytes
      rw [List.flatMap_cons, spell_append, spell_addressLayout, List.length_append, ih, ha,
        List.length_cons, Nat.succ_mul, Nat.add_comm]
  rw [readAddresses, if_neg (by simp [hlength])]
  exact readTable_spell .address spell_addressLayout_ne_nil (fun _ _ => trivial)

lemma readNames_spell {names : List Text}
    (h : ∀ t ∈ names, (∀ c ∈ t, c.isSurrogate = false) ∧ (Utf8.bytes t).length ≤ maxCount) :
    readTable Reader.text (spell (names.flatMap nameLayout)) = .ok names :=
  readTable_spell .text spell_nameLayout_ne_nil h

lemma readHandles_spell {handles : List (Nat × Nat)}
    (h : ∀ h ∈ handles, h.1 ≤ maxCount ∧ h.2 ≤ maxCount) :
    readTable handleReader (spell (handles.flatMap handleLayout)) = .ok handles :=
  readTable_spell isFormat_handle spell_handleLayout_ne_nil h

/-- What is read as the linkage of a module. -/
lemma ofBinary_eq_ok_iff {binary : Bytes} {m : CompiledModule} :
    ofBinary binary = .ok m ↔
      ∃ header, Bytecode.Header.ofBinary binary = .ok header ∧ header.version = m.version ∧
        readTables header binary = .ok (m.addresses, m.identifiers, m.handles, m.selfIndex) := by
  rw [ofBinary, Except.bind_eq_ok_iff]
  refine exists_congr fun header => and_congr_right fun _ => ?_
  obtain ⟨version, addresses, identifiers, handles, selfIndex, hhandles, hself⟩ := m
  constructor
  · intro h
    split at h
    next => cases h
    next hread =>
      split_ifs at h
      cases h
      exact ⟨rfl, hread⟩
  · rintro ⟨rfl, hread⟩
    simp only [hread, dif_pos hhandles, dif_pos hself]
    rfl

end CompiledModule

/-! ## Pools -/

namespace Bytecode.Assembler

open CompiledModule (handleLayout nameLayout addressLayout)

/-- The addresses, each once. -/
def addressPool (ids : List ModuleId) : List Address := (ids.map ModuleId.address).eraseDups

/-- The names, each once. -/
def namePool (ids : List ModuleId) : List Text := (ids.map ModuleId.name).eraseDups

/-- The places of address and name in their pools. -/
def place (ids : List ModuleId) (id : ModuleId) : Nat × Nat :=
  ((addressPool ids).idxOf id.address, (namePool ids).idxOf id.name)

/-- The tables of the linkage. -/
def linkage (ids : List ModuleId) : List (TableKind × Bytes) :=
  [(.moduleHandles, spell ((ids.map (place ids)).flatMap handleLayout)),
   (.identifiers, spell ((namePool ids).flatMap nameLayout)),
   (.addresses, spell ((addressPool ids).flatMap addressLayout))]

/-- The linkage can be written: the names are Unicode text, and the places and lengths of the
tables are within the limit. -/
structure IsWritable (ids : List ModuleId) : Prop where
  unicode : ∀ id ∈ ids, ∀ c ∈ id.name, c.isSurrogate = false
  fits : ∀ table ∈ entries 0 (linkage ids), table.Fits

variable {id : ModuleId} {ids dependencies : List ModuleId} {bytes : Bytes}

lemma address_mem_addressPool (h : id ∈ ids) : id.address ∈ addressPool ids := by
  rw [addressPool, List.mem_eraseDups]
  exact List.mem_map_of_mem h

lemma name_mem_namePool (h : id ∈ ids) : id.name ∈ namePool ids := by
  rw [namePool, List.mem_eraseDups]
  exact List.mem_map_of_mem h

/-- The place of a module is a valid handle. -/
lemma place_valid (h : id ∈ ids) :
    (place ids id).1 < (addressPool ids).length ∧ (place ids id).2 < (namePool ids).length :=
  ⟨List.idxOf_lt_length_of_mem (address_mem_addressPool h),
    List.idxOf_lt_length_of_mem (name_mem_namePool h)⟩

lemma length_addressPool_le (ids : List ModuleId) :
    (addressPool ids).length ≤ ids.length := by
  simpa [addressPool] using (eraseDups_sublist (ids.map ModuleId.address)).length_le

lemma length_namePool_le (ids : List ModuleId) : (namePool ids).length ≤ ids.length := by
  simpa [namePool] using (eraseDups_sublist (ids.map ModuleId.name)).length_le

/-! ## Growing pools -/

lemma eraseDups_concat {α : Type} [BEq α] [LawfulBEq α] (l : List α) (a : α) :
    (l ++ [a]).eraseDups = enter l.eraseDups a := by
  rw [List.eraseDups_append, enter]
  by_cases h : a ∈ l <;> simp [List.removeAll, h, List.eraseDups_cons]

/-- What is in a pool keeps its place when the pool grows. -/
lemma idxOf_enter {α : Type} [BEq α] [LawfulBEq α] {pool : List α} {a b : α} (h : a ∈ pool) :
    (enter pool b).idxOf a = pool.idxOf a := by
  rw [enter]
  split_ifs
  · rfl
  · exact List.idxOf_append_of_mem h

lemma addressPool_concat (ids : List ModuleId) (id : ModuleId) :
    addressPool (ids ++ [id]) = enter (addressPool ids) id.address := by
  simp [addressPool, eraseDups_concat]

lemma namePool_concat (ids : List ModuleId) (id : ModuleId) :
    namePool (ids ++ [id]) = enter (namePool ids) id.name := by
  simp [namePool, eraseDups_concat]

/-- The pools that grow with the handles are those of all modules. -/
lemma foldl_add (ids : List ModuleId) :
    ids.foldl Pools.add {} = ⟨addressPool ids, namePool ids,
      Written.concat (ids.map (handle (addressPool ids) (namePool ids)))⟩ := by
  induction ids using List.reverseRecOn with
  | nil => rfl
  | append_singleton ids id ih =>
    have hhandles : ids.map (handle (addressPool (ids ++ [id])) (namePool (ids ++ [id]))) =
        ids.map (handle (addressPool ids) (namePool ids)) := by
      refine List.map_congr_left fun e he => ?_
      rw [handle, handle, addressPool_concat, namePool_concat,
        idxOf_enter (address_mem_addressPool he), idxOf_enter (name_mem_namePool he)]
    rw [List.foldl_concat, ih, List.map_append, hhandles, List.map_singleton,
      Written.concat_concat, addressPool_concat, namePool_concat]
    rfl

/-! ## The written binary -/

lemma toExcept_handle_eq_ok_iff :
    (handle (addressPool ids) (namePool ids) id).toExcept = .ok bytes ↔
      ((place ids id).1 ≤ maxCount ∧ (place ids id).2 ≤ maxCount) ∧
        bytes = spell (handleLayout (place ids id)) := by
  rw [handle, Written.toExcept_append_eq_ok_iff]
  simp only [Written.toExcept_uleb_eq_ok_iff]
  constructor
  · rintro ⟨_, _, ⟨haddress, rfl⟩, ⟨hname, rfl⟩, rfl⟩
    exact ⟨⟨haddress, hname⟩, by simp [handleLayout, place, Piece.bytes]⟩
  · rintro ⟨⟨haddress, hname⟩, rfl⟩
    exact ⟨_, _, ⟨haddress, rfl⟩, ⟨hname, rfl⟩, by simp [handleLayout, place, Piece.bytes]⟩

lemma toExcept_name_eq_ok_iff {name : Text} :
    (Written.text name).toExcept = .ok bytes ↔
      ((∀ c ∈ name, c.isSurrogate = false) ∧ (Utf8.bytes name).length ≤ maxCount) ∧
        bytes = spell (nameLayout name) :=
  IsFormat.text.toExcept_write_eq_ok_iff Written.fits_of_toExcept_text

lemma flatMap_spell {α : Type} {layout : α → List Piece} (values : List α) :
    values.flatMap (fun v => spell (layout v)) = spell (values.flatMap layout) := by
  induction values with
  | nil => rfl
  | cons v values ih => simp [ih]

lemma numbered_linkage :
    numbered (linkage ids) =
      [((TableKind.moduleHandles.number : Int),
          ids.flatMap fun id => spell (handleLayout (place ids id))),
        (TableKind.identifiers.number, (namePool ids).flatMap fun name => spell (nameLayout name)),
        (TableKind.addresses.number, ((addressPool ids).map Address.bytes).flatten)] := by
  have haddresses : ((addressPool ids).map Address.bytes).flatten =
      spell ((addressPool ids).flatMap addressLayout) := by
    rw [← flatMap_spell, List.flatMap]
    simp only [CompiledModule.spell_addressLayout]
  rw [haddresses, flatMap_spell, flatMap_spell, ← List.flatMap_map (place ids) handleLayout]
  rfl

/-- The binary is written in parts: the handles, the names, the place of the module's own handle,
and finally all of it. -/
lemma moduleBinary_eq (hids : ids = dependencies ++ [id]) :
    moduleBinary id dependencies = (do
      let handles ← (Written.concat (ids.map (handle (addressPool ids) (namePool ids)))).toExcept
      let identifiers ← (Written.concat ((namePool ids).map Written.text)).toExcept
      let selfIndex ← (Written.uleb dependencies.length).toExcept
      (binary
        [(TableKind.moduleHandles.number, handles), (TableKind.identifiers.number, identifiers),
          (TableKind.addresses.number, ((addressPool ids).map Address.bytes).flatten)]
        selfIndex defaultVersion).toExcept) := by
  subst hids
  rfl

/-- The binary is the same when the pools grow with the handles. -/
lemma moduleBinary_eq_foldl (id : ModuleId) (dependencies : List ModuleId) :
    moduleBinary id dependencies = (do
      let pools := (dependencies ++ [id]).foldl Pools.add {}
      let handles ← pools.handles.toExcept
      let identifiers ← (Written.concat (pools.names.map Written.text)).toExcept
      let selfIndex ← (Written.uleb dependencies.length).toExcept
      (binary
        [(TableKind.moduleHandles.number, handles), (TableKind.identifiers.number, identifiers),
          (TableKind.addresses.number, (pools.addresses.map Address.bytes).flatten)]
        selfIndex defaultVersion).toExcept) := by
  rw [moduleBinary_eq rfl, foldl_add]

lemma moduleBinary_eq_ok_iff_parts (hids : ids = dependencies ++ [id]) :
    moduleBinary id dependencies = .ok bytes ↔
      (∀ e ∈ ids, (place ids e).1 ≤ maxCount ∧ (place ids e).2 ≤ maxCount) ∧
      (∀ name ∈ namePool ids,
        (∀ c ∈ name, c.isSurrogate = false) ∧ (Utf8.bytes name).length ≤ maxCount) ∧
      dependencies.length ≤ maxCount ∧
      (binary (numbered (linkage ids)) (Written.ulebBytes dependencies.length)
        defaultVersion).toExcept = .ok bytes := by
  rw [numbered_linkage, moduleBinary_eq hids]
  simp only [Except.bind_eq_ok_iff,
    Written.toExcept_concat_map_eq_ok_iff fun _ _ => toExcept_handle_eq_ok_iff,
    Written.toExcept_concat_map_eq_ok_iff fun _ _ => toExcept_name_eq_ok_iff,
    Written.toExcept_uleb_eq_ok_iff]
  constructor
  · rintro ⟨_, ⟨hplaces, rfl⟩, _, ⟨hnames, rfl⟩, _, ⟨hself, rfl⟩, h⟩
    exact ⟨hplaces, hnames, hself, h⟩
  · rintro ⟨hplaces, hnames, hself, h⟩
    exact ⟨_, ⟨hplaces, rfl⟩, _, ⟨hnames, rfl⟩, _, ⟨hself, rfl⟩, h⟩

namespace IsWritable

/-- There are no more modules than bytes in the table of handles. -/
lemma length_le (h : IsWritable ids) : ids.length ≤ maxCount := by
  have htable : (spell ((ids.map (place ids)).flatMap handleLayout)).length ≤ maxCount :=
    length_le_of_fits h.fits List.mem_cons_self
  have hle := length_le_length_spell (ids.map (place ids)) CompiledModule.spell_handleLayout_ne_nil
  rw [List.length_map] at hle
  omega

lemma place_le (h : IsWritable ids) {e : ModuleId} (he : e ∈ ids) :
    (place ids e).1 ≤ maxCount ∧ (place ids e).2 ≤ maxCount := by
  -- a place is below the size of its pool, and a pool is no larger than the list of modules
  have hids := h.length_le
  have hplace := place_valid he
  have haddresses := length_addressPool_le ids
  have hnames := length_namePool_le ids
  omega

lemma name_fits (h : IsWritable ids) {name : Text} (hname : name ∈ namePool ids) :
    (∀ c ∈ name, c.isSurrogate = false) ∧ (Utf8.bytes name).length ≤ maxCount := by
  have htable : (spell ((namePool ids).flatMap nameLayout)).length ≤ maxCount :=
    length_le_of_fits h.fits (List.mem_cons_of_mem _ List.mem_cons_self)
  have hle := length_spell_le_of_mem nameLayout hname
  have hbytes : (Utf8.bytes name).length ≤ (spell (nameLayout name)).length := by
    simp [nameLayout, countedLayout, Piece.bytes]
  rw [namePool, List.mem_eraseDups, List.mem_map] at hname
  obtain ⟨e, he, rfl⟩ := hname
  exact ⟨h.unicode e he, by omega⟩

end IsWritable

/-- The binary of a linkage that can be written. -/
lemma moduleBinary_of_isWritable (hids : ids = dependencies ++ [id]) (h : IsWritable ids) :
    moduleBinary id dependencies =
      .ok (spell (Header.layout 6 (entries 0 (linkage ids))) ++ contents (linkage ids) ++
        Written.ulebBytes dependencies.length) := by
  have hversion : defaultVersion = ((6 : Nat) : Int) := rfl
  have hlength := h.length_le
  rw [moduleBinary_eq_ok_iff_parts hids, hversion, binary_eq_ok_iff]
  rw [hids, List.length_append] at hlength
  exact ⟨fun _ he => h.place_le he, fun _ hname => h.name_fits hname, by omega, by decide,
    by simp [linkage, maxCount], h.fits, rfl⟩

/-- A linkage is written exactly when it can be. -/
lemma exists_moduleBinary_iff :
    (∃ bytes, moduleBinary id dependencies = .ok bytes) ↔ IsWritable (dependencies ++ [id]) := by
  have hversion : defaultVersion = ((6 : Nat) : Int) := rfl
  refine ⟨fun ⟨bytes, h⟩ => ?_, fun h => ⟨_, moduleBinary_of_isWritable rfl h⟩⟩
  obtain ⟨-, hnames, -, hbinary⟩ := (moduleBinary_eq_ok_iff_parts rfl).mp h
  rw [hversion, binary_eq_ok_iff] at hbinary
  exact ⟨fun e he => (hnames _ (name_mem_namePool he)).1, hbinary.2.2.1⟩

/-! ## The read linkage -/

lemma contents_linkage_ne_nil (hid : id ∈ ids) : ∀ table ∈ linkage ids, table.2 ≠ [] := by
  have hne : ∀ {α : Type} {layout : α → List Piece} {values : List α},
      (∀ v, spell (layout v) ≠ []) → values ≠ [] → spell (values.flatMap layout) ≠ [] := by
    intro α layout values hlayout hvalues hspell
    have hle := length_le_length_spell values hlayout
    rw [hspell, List.length_nil] at hle
    exact hvalues (List.length_eq_zero_iff.mp (by omega))
  have hhandles := hne CompiledModule.spell_handleLayout_ne_nil
    (List.ne_nil_of_mem (List.mem_map_of_mem (f := place ids) hid))
  have hnames := hne CompiledModule.spell_nameLayout_ne_nil
    (List.ne_nil_of_mem (name_mem_namePool hid))
  have haddresses := hne CompiledModule.spell_addressLayout_ne_nil
    (List.ne_nil_of_mem (address_mem_addressPool hid))
  simpa [linkage] using ⟨hhandles, hnames, haddresses⟩

/-- The tables of a module's binary are the pools and the places in them. -/
lemma readTables_of_moduleBinary (h : moduleBinary id dependencies = .ok bytes)
    (hids : ids = dependencies ++ [id]) :
    ∃ header, Header.ofBinary bytes = .ok header ∧
      CompiledModule.readTables header bytes =
        .ok (addressPool ids, namePool ids, ids.map (place ids), dependencies.length) := by
  have hid : id ∈ ids := by simp [hids]
  obtain ⟨hplaces, hnames, hself, hbinary⟩ := (moduleBinary_eq_ok_iff_parts hids).mp h
  rw [show defaultVersion = ((6 : Nat) : Int) from rfl] at hbinary
  have hkinds : ((linkage ids).map Prod.fst).Nodup := by
    change [TableKind.moduleHandles, .identifiers, .addresses].Nodup
    decide
  obtain ⟨header, hheader, hversion, hcontent, htrailer⟩ :=
    exists_header_of_binary hbinary (by decide) hkinds (contents_linkage_ne_nil hid)
  -- the reader finds a table by its kind, wherever the directory has put it
  have haddresses : header.content bytes .addresses =
      spell ((addressPool ids).flatMap addressLayout) := hcontent _
  have hidentifiers : header.content bytes .identifiers =
      spell ((namePool ids).flatMap nameLayout) := hcontent _
  have hhandles : header.content bytes .moduleHandles =
      spell ((ids.map (place ids)).flatMap handleLayout) := hcontent _
  have hindex : CompiledModule.readSelfIndex header.version (header.trailer bytes) =
      .ok dependencies.length := by
    have hread := (Reader.read_uleb_eq_ok_iff_of_le hself).mpr
      ⟨_, Codec.isNumeral_ulebBytes _, (List.append_nil _).symm⟩
    rw [CompiledModule.readSelfIndex, hversion, if_neg (by decide), htrailer, hread]
  refine ⟨header, hheader, ?_⟩
  rw [CompiledModule.readTables, haddresses, hidentifiers, hhandles, hindex,
    CompiledModule.readAddresses_spell, CompiledModule.readNames_spell hnames,
    CompiledModule.readHandles_spell (by simpa using hplaces)]
  rfl

end Bytecode.Assembler

namespace CompiledModule

open Bytecode.Assembler

variable {m : CompiledModule} {id : ModuleId} {ids dependencies : List ModuleId}

/-- Resolving the places of modules in the pools gives the modules. -/
lemma ids_of_pools (haddresses : m.addresses = addressPool ids)
    (hidentifiers : m.identifiers = namePool ids) (hhandles : m.handles = ids.map (place ids)) :
    m.ids = ids := by
  obtain ⟨version, addresses, identifiers, handles, selfIndex, hvalid, hself⟩ := m
  simp only at haddresses hidentifiers hhandles
  subst haddresses hidentifiers hhandles
  refine List.ext_getElem (by simp [CompiledModule.ids]) fun i hi hi' => ?_
  simp [CompiledModule.ids, idOf, place]

/-- The module itself is the one at the place of its own handle. -/
lemma getElem?_ids_selfIndex (m : CompiledModule) : m.ids[m.selfIndex]? = some m.id := by
  have hself := m.self_valid
  simp [ids, CompiledModule.id, hself]

/-- What is written as the linkage of a module is read as it. -/
lemma exists_ofBinary_of_moduleBinary {binary : Bytes}
    (h : moduleBinary id dependencies = .ok binary) :
    ∃ m, ofBinary binary = .ok m ∧ m.id = id ∧ m.dependencies = dependencies := by
  obtain ⟨header, hheader, htables⟩ := readTables_of_moduleBinary h rfl
  let m : CompiledModule :=
    { version := header.version
      addresses := addressPool (dependencies ++ [id])
      identifiers := namePool (dependencies ++ [id])
      handles := (dependencies ++ [id]).map (place (dependencies ++ [id]))
      selfIndex := dependencies.length
      handles_valid := List.forall_mem_map.mpr fun _ he => place_valid he
      self_valid := by simp }
  have hids : m.ids = dependencies ++ [id] := ids_of_pools rfl rfl rfl
  have hself : m.selfIndex = dependencies.length := rfl
  have hid := m.getElem?_ids_selfIndex
  refine ⟨m, ofBinary_eq_ok_iff.mpr ⟨header, hheader, rfl, htables⟩, ?_, ?_⟩
  · rw [hids, hself] at hid
    simpa [eq_comm] using hid
  · rw [CompiledModule.dependencies, hids, hself]
    simp [List.eraseIdx_append_of_length_le]

/-- **The linkage of a module is read back.**  The binary of a module with given dependencies is
written exactly when the names are Unicode text and all places and lengths of its tables are within
the limit of the format.  It is then the binary of a module with this identity, whose dependencies
are the given ones, one by one and in their order. -/
theorem ofBinary_moduleBinary (id : ModuleId) (dependencies : List ModuleId) :
    ((∃ binary, moduleBinary id dependencies = .ok binary) ↔ IsWritable (dependencies ++ [id])) ∧
    ∀ binary, moduleBinary id dependencies = .ok binary →
      ∃ m, ofBinary binary = .ok m ∧ m.id = id ∧ m.dependencies = dependencies :=
  ⟨exists_moduleBinary_iff, fun _ => exists_ofBinary_of_moduleBinary⟩

/-- A module that depends on itself, and twice on another one. -/
theorem ofBinary_moduleBinary_repeated :
    ∃ binary m,
      moduleBinary ⟨⟨List.replicate 32 1, rfl⟩, "a"⟩
        [⟨⟨List.replicate 32 0, rfl⟩, "b"⟩, ⟨⟨List.replicate 32 1, rfl⟩, "a"⟩,
          ⟨⟨List.replicate 32 0, rfl⟩, "b"⟩] = .ok binary ∧
      ofBinary binary = .ok m ∧ m.id = ⟨⟨List.replicate 32 1, rfl⟩, "a"⟩ ∧
      m.dependencies = [⟨⟨List.replicate 32 0, rfl⟩, "b"⟩, ⟨⟨List.replicate 32 1, rfl⟩, "a"⟩,
        ⟨⟨List.replicate 32 0, rfl⟩, "b"⟩] := by
  have hentries : entries 0 (Bytecode.Assembler.linkage [⟨⟨List.replicate 32 0, rfl⟩, "b"⟩,
      ⟨⟨List.replicate 32 1, rfl⟩, "a"⟩, ⟨⟨List.replicate 32 0, rfl⟩, "b"⟩,
      ⟨⟨List.replicate 32 1, rfl⟩, "a"⟩]) =
      [⟨.moduleHandles, 0, 8⟩, ⟨.identifiers, 8, 4⟩, ⟨.addresses, 12, 64⟩] := by cbv
  have hfits : IsWritable [⟨⟨List.replicate 32 0, rfl⟩, "b"⟩,
      ⟨⟨List.replicate 32 1, rfl⟩, "a"⟩, ⟨⟨List.replicate 32 0, rfl⟩, "b"⟩,
      ⟨⟨List.replicate 32 1, rfl⟩, "a"⟩] :=
    ⟨by decide, by rw [hentries]; simp [Bytecode.Table.Fits, maxCount]⟩
  -- two addresses and two names are left of four modules
  obtain ⟨hwritten, hread⟩ := ofBinary_moduleBinary ⟨⟨List.replicate 32 1, rfl⟩, "a"⟩
    [⟨⟨List.replicate 32 0, rfl⟩, "b"⟩, ⟨⟨List.replicate 32 1, rfl⟩, "a"⟩,
      ⟨⟨List.replicate 32 0, rfl⟩, "b"⟩]
  obtain ⟨binary, hbinary⟩ := hwritten.mpr hfits
  obtain ⟨m, hm, hid, hdependencies⟩ := hread binary hbinary
  exact ⟨binary, m, hbinary, hm, hid, hdependencies⟩

end CompiledModule

end MovePack
