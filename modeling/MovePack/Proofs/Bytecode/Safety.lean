/-
# Reading untrusted binaries

Whatever bytes are read as a binary, reading them ends in a result or in a refusal.  The readers
that are laid out with everything that could stop them are shown to be the readers of the library.
These blame nothing but the bytes, and every place that a module refers to can be looked up, so no
other cause ever comes out of them.
-/
import MovePack.Bytecode.Stepwise
import MovePack.Proofs.Bytecode.Linkage

/-- All places but one. -/
lemma List.filter_range_ne {n k : Nat} (hk : k < n) :
    (range n).filter (fun i => i ≠ k) = (range n).eraseIdx k := by
  have hplace := nodup_range.idxOf_getElem k (by simpa using hk)
  rw [getElem_range] at hplace
  rw [← erase_eq_eraseIdx_of_idxOf hplace, nodup_range.erase_eq_filter]
  exact filter_congr fun i _ => by by_cases h : i = k <;> simp [h]

namespace MovePack

open Codec (IsFormat Piece ReadFault Reader WriteFault Written spell spell_append)
open CompiledModule (addressLayout spell_addressLayout)

/-! ## Faults of the bytes -/

namespace Bytecode

lemma Header.blamesBytes_entry : Header.entry.BlamesBytes :=
  (Reader.BlamesBytes.uint (by decide)).bind fun _ _ _ _ =>
    Reader.BlamesBytes.uleb.bind fun _ _ _ _ => Reader.BlamesBytes.uleb.bind fun _ _ _ _ => .pure _

lemma Script.blamesBytes_preamble : Script.preamble.BlamesBytes :=
  Reader.BlamesBytes.uleb.bind fun _ count _ _ =>
    (Reader.BlamesBytes.replicate (.uint (by decide)) count).bind fun _ _ _ _ =>
      Reader.BlamesBytes.uleb.bind fun _ _ _ _ => .pure ()

end Bytecode

namespace CompiledModule

lemma blamesBytes_handleReader : handleReader.BlamesBytes :=
  Reader.BlamesBytes.uleb.bind fun _ _ _ _ => Reader.BlamesBytes.uleb.bind fun _ _ _ _ => .pure _

lemma settles_readMany {α : Type} {r : Reader α} (hr : r.BlamesBytes) (fuel : Nat)
    (input : Bytes) : (readMany r fuel input).Settles (fun _ => True) ReadFault.IsOfBytes := by
  fun_induction readMany r fuel input with
  | case1 | case2 => exact .ok trivial
  | case3 _ _ _ _ _ hread => exact .error (hr _ _ _ hread)
  | case4 _ _ _ _ _ _ ih => exact ih.map fun _ _ => trivial

/-- Tables that cannot be read are blamed on their bytes. -/
lemma settles_readTables (header : Bytecode.Header) (binary : Bytes) :
    (readTables header binary).Settles (fun _ => True) ReadFault.IsOfBytes := by
  have haddresses : ∀ table,
      (readAddresses table).Settles (fun _ => True) ReadFault.IsOfBytes := by
    intro table
    rw [readAddresses]
    split_ifs
    · exact .error (by rintro _ ⟨⟩)
    · exact settles_readMany .address _ _
  have hself : (readSelfIndex header.version (header.trailer binary)).Settles (fun _ => True)
      ReadFault.IsOfBytes := by
    rw [readSelfIndex]
    split_ifs
    · exact .ok trivial
    · rcases hread : Reader.uleb.read (header.trailer binary) with ⟨fault | index, rest⟩
      · exact .error (Reader.BlamesBytes.uleb _ _ _ hread)
      · exact .ok trivial
  exact (haddresses _).bind fun _ _ => (settles_readMany .text _ _).bind fun _ _ =>
    (settles_readMany blamesBytes_handleReader _ _).bind fun _ _ => hself.bind fun _ _ =>
      .ok trivial

end CompiledModule

namespace Bytecode.Stepwise

/-! ## The readers of the library -/

variable {α β : Type}

/-- A refusal stays one. -/
lemma mapError_asRefusal (reason : ReadFault → IntegrityFault) (x : Except IntegrityFault α) :
    (x.mapError Stop.refusal).mapError (Stop.asRefusal reason) = x.mapError Stop.refusal := by
  cases x <;> rfl

/-- Bytes that are to blame are refused. -/
lemma mapError_asRefusal_unreadable (reason : ReadFault → IntegrityFault) {x : Except ReadFault α}
    {P : α → Prop} (h : x.Settles P ReadFault.IsOfBytes) :
    (x.mapError Stop.unreadable).mapError (Stop.asRefusal reason) =
      (x.mapError reason).mapError Stop.refusal := by
  cases h with
  | ok => rfl
  | @error fault hfault =>
    cases fault with
    | foreign cause => exact absurd rfl (hfault cause)
    | _ => rfl

/-- A reader that blames the bytes is followed by a refusal when it fails. -/
lemma mapError_asRefusal_step (reason : ReadFault → IntegrityFault) {r : Reader α}
    (hr : r.BlamesBytes) (input : Bytes) :
    (step r input).mapError (Stop.asRefusal reason) =
      match r.read input with
      | (.ok a, rest) => .ok (a, rest)
      | (.error fault, _) => .error (.refusal (reason fault)) := by
  rw [step]
  rcases hread : r.read input with ⟨fault | a, rest⟩
  · cases fault with
    | foreign cause => exact absurd rfl (hr _ _ _ hread cause)
    | _ => rfl
  · rfl

/-! ### The header -/

lemma mapError_step {r : Reader α} (hr : r.BlamesBytes) (input : Bytes) :
    (step r input).mapError (Stop.asRefusal .malformedHeader) =
      (Header.part r input).mapError Stop.refusal := by
  rw [mapError_asRefusal_step _ hr, Header.part]
  rcases r.read input with ⟨_ | a, rest⟩ <;> rfl

lemma mapError_entries (before : List Table) (count : Nat) (input : Bytes) :
    (entries before count input).mapError (Stop.asRefusal .malformedHeader) =
      (Header.readTables before count input).mapError Stop.refusal := by
  induction count generalizing before input with
  | zero => rfl
  | succ count ih =>
    simp only [entries, Header.readTables, Except.mapError_bind,
      mapError_step Header.blamesBytes_entry, mapError_asRefusal, ih]

/-- The header that is read step by step is the header of the binary. -/
lemma header_eq (binary : Bytes) :
    header binary = (Header.ofBinary binary).mapError Stop.refusal := by
  have hmark := mapError_step (.take (by decide : magic.length ≤ Codec.maxIndex))
  have hword := mapError_step (.uint (by decide : 4 ≤ Codec.maxIndex))
  have hcount := mapError_step Reader.BlamesBytes.uleb
  simp only [header, directory, Header.ofBinary, Except.throw_bind, Except.mapError_bind,
    Except.mapError_throw, Except.mapError_pure, apply_ite, hmark, hword, hcount, mapError_entries,
    bind_assoc]
  refine bind_congr fun mark => ?_
  split_ifs
  · rfl
  simp only [bind_assoc]
  refine bind_congr fun word => ?_
  split_ifs
  · rfl
  simp only [bind_assoc, pure_bind]
  refine bind_congr fun count => bind_congr fun tables => ?_
  cases Header.contentLength? tables.1 with
  | none => rfl
  | some length =>
    change (if _ then _ else _) = Except.mapError Stop.refusal (if _ then _ else _)
    split_ifs <;> rfl

/-! ### The tables -/

/-- A table is looked up only if the directory has it. -/
lemma content_eq (header : Header) (binary : Bytes) (kind : TableKind) :
    content header binary kind = .ok (header.content binary kind) := by
  rw [content, entry, Header.content]
  cases header.find? kind <;> rfl

/-- Values that take bytes are no more than the bytes of a table, so reading it comes to an end. -/
lemma values_step {r : Reader α}
    (hr : ∀ input a rest, r.read input = (.ok a, rest) → rest.length < input.length)
    {fuel : Nat} {input : Bytes} (hfuel : input.length ≤ fuel) :
    values (step r) fuel input =
      (CompiledModule.readMany r fuel input).mapError Stop.unreadable := by
  induction fuel generalizing input with
  | zero =>
    obtain rfl := List.length_eq_zero_iff.mp (Nat.le_zero.mp hfuel)
    rfl
  | succ fuel ih =>
    cases input with
    | nil => rfl
    | cons b input =>
      simp only [values, step, CompiledModule.readMany]
      rcases hread : r.read (b :: input) with ⟨_ | a, rest⟩
      · rfl
      · have hrest := hr _ _ _ hread
        simp only [Except.ok_bind]
        rw [ih (by omega)]
        cases CompiledModule.readMany r fuel rest <;> rfl

/-- A value of a format whose layouts take bytes takes bytes. -/
lemma length_lt_of_read {write : α → Written WriteFault} {r : Reader α} {layout : α → List Piece}
    {Fits : α → Prop} (h : IsFormat write r layout Fits) (hlayout : ∀ a, spell (layout a) ≠ [])
    (input : Bytes) (a : α) (rest : Bytes) (hread : r.read input = (.ok a, rest)) :
    rest.length < input.length := by
  have hle := ((h.read_iff input a rest).mp hread).2.length_le
  have hpos := List.length_pos_of_ne_nil (hlayout a)
  omega

lemma slices_append {size : Nat} {first : Bytes} (hfirst : first.length = size) (hsize : 0 < size)
    (rest : Bytes) : slices size (first ++ rest) = first :: slices size rest := by
  subst hfirst
  have hcount : ((first ++ rest).length + first.length - 1) / first.length =
      (rest.length + first.length - 1) / first.length + 1 := by
    rw [← Nat.add_div_right _ hsize, List.length_append]
    congr 1
    omega
  rw [slices, hcount, List.range_succ_eq_map, List.map_cons, List.map_map, slices]
  simp [Nat.succ_mul, Nat.add_comm _ first.length, ← List.drop_drop]

/-- A whole number of addresses is the addresses one after the other. -/
lemma exists_addresses {table : Bytes} (h : table.length % Address.size = 0) :
    ∃ l : List Address, table = spell (l.flatMap addressLayout) := by
  obtain ⟨count, hcount⟩ := Nat.dvd_of_mod_eq_zero h
  induction count generalizing table with
  | zero => exact ⟨[], List.length_eq_zero_iff.mp hcount⟩
  | succ count ih =>
    have hlength : table.length = 32 * count + 32 := hcount
    have hrest : (table.drop 32).length = 32 * count := by rw [List.length_drop]; omega
    have hmod : (table.drop 32).length % Address.size = 0 := by
      rw [hrest]
      exact Nat.mul_mod_right 32 count
    obtain ⟨l, hl⟩ := ih hmod hrest
    refine ⟨⟨table.take 32, by rw [List.length_take]; omega⟩ :: l, ?_⟩
    rw [List.flatMap_cons, spell_append, ← hl, spell_addressLayout, List.take_append_drop]

lemma slices_spell (l : List Address) :
    slices Address.size (spell (l.flatMap addressLayout)) = l.map Address.bytes := by
  induction l with
  | nil => rfl
  | cons a l ih =>
    have ha : a.bytes.length = Address.size := a.length_bytes
    rw [List.flatMap_cons, spell_append, spell_addressLayout, slices_append ha (by decide), ih,
      List.map_cons]

lemma addresses_eq (table : Bytes) :
    addresses table = (CompiledModule.readAddresses table).mapError Stop.unreadable := by
  by_cases h : table.length % Address.size = 0
  · obtain ⟨l, rfl⟩ := exists_addresses h
    have haddresses : (l.map Address.bytes).mapM
        (fun bytes => (Address.ofBytes bytes).mapError Stop.noAddress) = .ok l := by
      rw [Except.mapM_eq_ok_iff, List.forall₂_map_left_iff, List.forall₂_same]
      intro a _
      rw [Address.ofBytes, dif_pos a.length_bytes]
      rfl
    rw [addresses, if_neg (not_not.mpr h), slices_spell, CompiledModule.readAddresses_spell]
    exact haddresses
  · rw [addresses, CompiledModule.readAddresses, if_pos h, if_pos h]
    rfl

lemma selfIndex_eq (version : Nat) (trailer : Bytes) :
    selfIndex version trailer =
      (CompiledModule.readSelfIndex version trailer).mapError Stop.unreadable := by
  rw [selfIndex, CompiledModule.readSelfIndex]
  by_cases h : version < CompiledModule.selfIndexVersion
  · rw [if_neg (Nat.not_le.mpr h), if_pos h]
    rfl
  · rw [if_pos (Nat.not_lt.mp h), if_neg h, step]
    rcases Reader.uleb.read trailer with ⟨_ | index, rest⟩ <;> rfl

/-- The names of a table. -/
lemma names_eq (table : Bytes) :
    values (step Reader.text) table.length table =
      (CompiledModule.readTable Reader.text table).mapError Stop.unreadable :=
  values_step (length_lt_of_read .text CompiledModule.spell_nameLayout_ne_nil) le_rfl

lemma handles_eq (table : Bytes) :
    values (step CompiledModule.handleReader) table.length table =
      (CompiledModule.readTable CompiledModule.handleReader table).mapError Stop.unreadable :=
  values_step
    (length_lt_of_read CompiledModule.isFormat_handle CompiledModule.spell_handleLayout_ne_nil)
    le_rfl

/-- The tables that are read step by step are the tables of the module. -/
lemma tables_eq (header : Header) (binary : Bytes) :
    tables header binary =
      ((CompiledModule.readTables header binary).map fun t =>
        ⟨header.version, t.1, t.2.1, t.2.2.1, t.2.2.2⟩).mapError Stop.unreadable := by
  simp only [tables, CompiledModule.readTables, content_eq, addresses_eq, names_eq, handles_eq,
    selfIndex_eq, Except.ok_bind, Except.map_bind, Except.mapError_bind]
  rfl

end Stepwise

end Bytecode

namespace CompiledModule

open Bytecode (Linkage)
open Bytecode.Stepwise (lookUp)

lemma length_ids (m : CompiledModule) : m.ids.length = m.handles.length := List.length_pmap

/-- Every handle leads to an address and to a name. -/
lemma idAt_linkage (m : CompiledModule) {place : Nat} {id : ModuleId}
    (h : m.ids[place]? = some id) : m.linkage.idAt place = .ok id := by
  obtain ⟨hplace, rfl⟩ := List.getElem?_eq_some_iff.mp h
  rw [length_ids] at hplace
  obtain ⟨haddress, hname⟩ := m.handles_valid _ (List.getElem_mem hplace)
  simp [Linkage.idAt, linkage, lookUp, Except.ok_bind, ids, idOf, hplace, haddress, hname]

lemma selfId_linkage (m : CompiledModule) : m.linkage.selfId = .ok m.id :=
  m.idAt_linkage m.getElem?_ids_selfIndex

lemma forall₂_idAt_linkage (m : CompiledModule) :
    List.Forall₂ (fun place id => m.linkage.idAt place = .ok id) (List.range m.handles.length)
      m.ids := by
  rw [List.forall₂_iff_get]
  refine ⟨by rw [List.length_range, length_ids], fun place _ hplace => m.idAt_linkage ?_⟩
  simp

lemma dependencies_linkage (m : CompiledModule) :
    m.linkage.dependencies = .ok m.dependencies := by
  rw [Linkage.dependencies, Except.mapM_eq_ok_iff]
  change List.Forall₂ _ ((List.range m.handles.length).filter fun i => i ≠ m.selfIndex) _
  rw [List.filter_range_ne m.self_valid]
  exact m.forall₂_idAt_linkage.eraseIdx m.selfIndex

/-- All handles but one are dependencies. -/
lemma length_dependencies (m : CompiledModule) :
    m.dependencies.length + 1 = m.handles.length := by
  have hself : m.selfIndex < m.ids.length := by
    rw [length_ids]
    exact m.self_valid
  rw [dependencies, List.length_eraseIdx_add_one hself, length_ids]

end CompiledModule

namespace Bytecode.Stepwise

/-- The linkage that is read step by step is the linkage of the module. -/
lemma linkage_eq (binary : Bytes) :
    linkage binary =
      ((CompiledModule.ofBinary binary).map CompiledModule.linkage).mapError Stop.refusal := by
  simp only [linkage, CompiledModule.ofBinary, header_eq, tables_eq, Except.map_bind,
    Except.mapError_bind, Except.throw_bind]
  refine bind_congr fun header => ?_
  rw [mapError_asRefusal_unreadable _ ((CompiledModule.settles_readTables header binary).map
    (Q := fun _ => True) fun _ _ => trivial)]
  rcases CompiledModule.readTables header binary with
    fault | ⟨addresses, identifiers, handles, selfIndex⟩
  · rfl
  -- a place out of range is found before it is used
  have hcheck : (handles.any fun h => addresses.length ≤ h.1 || identifiers.length ≤ h.2) = true ↔
      ¬ ∀ h ∈ handles, h.1 < addresses.length ∧ h.2 < identifiers.length := by
    simp only [List.any_eq_true, Bool.or_eq_true, decide_eq_true_eq, not_forall, not_and_or,
      Nat.not_lt, exists_prop]
  simp only [Except.map, Except.mapError, Except.ok_bind, hcheck]
  by_cases hvalid : ∀ h ∈ handles, h.1 < addresses.length ∧ h.2 < identifiers.length
  · rw [if_neg (not_not.mpr hvalid), dif_pos hvalid]
    by_cases hself : selfIndex < handles.length
    · rw [if_neg (Nat.not_le.mpr hself), dif_pos hself]
      rfl
    · rw [if_pos (Nat.not_lt.mp hself), dif_neg hself]
      rfl
  · rw [if_pos hvalid, dif_neg hvalid]
    rfl

/-- The script that is read step by step is the script of the binary. -/
lemma script_eq (binary : Bytes) :
    script binary = (Script.verify binary).mapError Stop.refusal := by
  simp only [script, Script.verify, header_eq, Except.mapError_bind, Except.throw_bind,
    Except.mapError_throw, apply_ite]
  refine bind_congr fun header => ?_
  split_ifs
  · rfl
  rw [Script.checkBody, mapError_asRefusal_step _ Script.blamesBytes_preamble]
  rcases Script.preamble.read (header.trailer binary) with ⟨fault | ⟨⟩, _ | ⟨b, rest⟩⟩ <;> rfl

/-- **Untrusted bytes are read or refused.**  Whatever could stop the readers of a module and of a
script, they end with what the library reads, or with the fault for which it refuses the bytes.  In
a module that is read the places of all handles lead to a module, so that it is found itself, and so
are its dependencies, one less than there are handles. -/
theorem read_or_refused (binary : Bytes) :
    ((∃ m, CompiledModule.ofBinary binary = .ok m ∧ linkage binary = .ok m.linkage ∧
        m.linkage.selfId = .ok m.id ∧
        (List.range m.handles.length).mapM m.linkage.idAt = .ok m.ids ∧
        m.linkage.dependencies = .ok m.dependencies ∧
        m.dependencies.length + 1 = m.handles.length) ∨
      ∃ fault, CompiledModule.ofBinary binary = .error fault ∧
        linkage binary = .error (.refusal fault)) ∧
    ((∃ header, Script.verify binary = .ok header ∧ script binary = .ok header) ∨
      ∃ fault, Script.verify binary = .error fault ∧ script binary = .error (.refusal fault)) := by
  rw [linkage_eq, script_eq]
  constructor
  · cases CompiledModule.ofBinary binary with
    | error fault => exact .inr ⟨fault, rfl, rfl⟩
    | ok m =>
      exact .inl ⟨m, rfl, rfl, m.selfId_linkage, Except.mapM_eq_ok_iff.mpr m.forall₂_idAt_linkage,
        m.dependencies_linkage, m.length_dependencies⟩
  · cases Script.verify binary with
    | error fault => exact .inr ⟨fault, rfl, rfl⟩
    | ok header => exact .inl ⟨header, rfl, rfl⟩

/-- Bare tables can have a handle that leads nowhere. -/
example : (⟨6, [], ["a"], [(0, 0)], 0⟩ : Linkage).selfId = .error (.outOfRange 0 0) := rfl

end Bytecode.Stepwise

end MovePack
