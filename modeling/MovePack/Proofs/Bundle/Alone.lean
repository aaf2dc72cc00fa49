/-
# A module by itself

Of the handles of a module its own one is left out by its place, and the modules of all others are
its dependencies.  A module is known by its address and its name, though, and the tables of a binary
may repeat their entries: whether they do is left to the chain, like all else that does not stop the
reader.  So a module depends on itself exactly when another handle names it too, and then it cannot
be bundled even by itself.
-/
import MovePack.Proofs.Bundle.Cycle
import MovePack.Proofs.Bytecode.Linkage

namespace MovePack

namespace Bundle

open ModuleDescriptor (DependsOn lastCopy? mem_ids)

variable {d : ModuleDescriptor}

/-! ## Bundles of one module -/

lemma dependsOn_singleton_iff {a b : ModuleId} :
    DependsOn [d] a b ↔ a = d.id ∧ b = d.id ∧ d.id ∈ d.dependencies := by
  have hcopy : ∀ e, lastCopy? [d] a = some e ↔ d.id = a ∧ d = e := by
    simp [lastCopy?]
  simp only [ModuleDescriptor.DependsOn, hcopy, ModuleDescriptor.ids_cons, ModuleDescriptor.ids_nil,
    List.mem_singleton]
  constructor
  · rintro ⟨_, ⟨rfl, rfl⟩, hmem, rfl⟩
    exact ⟨rfl, rfl, hmem⟩
  · rintro ⟨rfl, rfl, hmem⟩
    exact ⟨d, ⟨rfl, rfl⟩, hmem, rfl⟩

/-- A module that does not depend on itself is ordered by itself. -/
lemma order_singleton_of_notMem (h : d.id ∉ d.dependencies) : order [d] = .ok [d] := by
  cases horder : order [d] with
  | error f =>
    obtain ⟨a, ha⟩ := exists_order_eq_error_iff.mp ⟨f, horder⟩
    obtain ⟨_, hstep, -⟩ := Relation.TransGen.head'_iff.mp ha
    exact absurd (dependsOn_singleton_iff.mp hstep).2.2 h
  | ok ordered =>
    have hpublish := isPublishOrder_of_order_eq_ok horder
    have hall : ∀ e ∈ ordered, e = d := fun e he =>
      List.mem_singleton.mp (ModuleDescriptor.mem_of_lastCopy? (hpublish.lastCopy e he))
    obtain ⟨e, he, -⟩ := mem_ids.mp ((hpublish.mem_ids_iff d.id).mpr List.mem_cons_self)
    obtain rfl := hall e he
    have hperm : ordered.Perm [e] :=
      (List.perm_ext_iff_of_nodup hpublish.nodup.of_map (List.nodup_singleton e)).mpr fun c =>
        ⟨fun hc => List.mem_singleton.mpr (hall c hc), fun hc => List.mem_singleton.mp hc ▸ he⟩
    rw [List.perm_singleton.mp hperm]

/-- A module that depends on itself is a cycle by itself. -/
lemma order_singleton_of_mem (h : d.id ∈ d.dependencies) :
    order [d] = .error ⟨[d.id, d.id]⟩ := by
  obtain ⟨⟨cycle⟩, hf⟩ := exists_order_eq_error_iff.mpr
    ⟨d.id, .single (dependsOn_singleton_iff.mpr ⟨rfl, rfl, h⟩)⟩
  obtain ⟨⟨first, others, rfl, hnodup⟩, hsubset, -⟩ := isSimpleCycle_of_order_eq_error hf
  rw [List.append_subset, List.cons_subset] at hsubset
  obtain ⟨⟨hfirst, hothers⟩, -⟩ := hsubset
  obtain rfl := List.mem_singleton.mp hfirst
  -- all modules on the way are the same one, and none comes twice
  obtain rfl : others = [] := List.eq_nil_iff_forall_not_mem.mpr fun c hc =>
    (List.nodup_cons.mp hnodup).1 (List.mem_singleton.mp (hothers hc) ▸ hc)
  exact hf

/-- A module by itself is ordered unless it depends on itself. -/
lemma order_singleton (d : ModuleDescriptor) :
    order [d] = if d.id ∈ d.dependencies then .error ⟨[d.id, d.id]⟩ else .ok [d] := by
  split_ifs with h
  · exact order_singleton_of_mem h
  · exact order_singleton_of_notMem h

end Bundle

namespace CompiledModule

variable {m : CompiledModule}

/-! ## Handles that name the module itself -/

/-- One handle only names the module itself. -/
def IsNamedOnce (m : CompiledModule) : Prop := m.ids.count m.id = 1

instance (m : CompiledModule) : Decidable m.IsNamedOnce := inferInstanceAs (Decidable (_ = _))

/-- No table of the linkage repeats an entry. -/
structure HasDistinctEntries (m : CompiledModule) : Prop where
  addresses : m.addresses.Nodup
  identifiers : m.identifiers.Nodup
  handles : m.handles.Nodup

/-- The module itself and its dependencies are the modules of all handles. -/
lemma cons_dependencies_perm (m : CompiledModule) : (m.id :: m.dependencies).Perm m.ids := by
  obtain ⟨hself, hid⟩ := List.getElem?_eq_some_iff.mp m.getElem?_ids_selfIndex
  rw [← hid]
  exact List.getElem_cons_eraseIdx_perm hself

/-- A module does not depend on itself when no other handle names it. -/
lemma notMem_dependencies_iff : m.id ∉ m.dependencies ↔ m.IsNamedOnce := by
  rw [IsNamedOnce, ← m.cons_dependencies_perm.count_eq, List.count_cons_self, Nat.add_eq_right,
    List.count_eq_zero]

/-- In tables without repetitions, different handles name different modules. -/
lemma HasDistinctEntries.nodup_ids (h : m.HasDistinctEntries) : m.ids.Nodup := by
  refine h.handles.pmap fun a ha b hb heq => ?_
  rw [idOf, idOf, ModuleId.mk.injEq, h.addresses.getElem_inj_iff,
    h.identifiers.getElem_inj_iff] at heq
  exact Prod.ext heq.1 heq.2

lemma HasDistinctEntries.isNamedOnce (h : m.HasDistinctEntries) : m.IsNamedOnce :=
  List.count_eq_one_of_mem h.nodup_ids (m.cons_dependencies_perm.subset List.mem_cons_self)

open Bytecode.Assembler

/-- The tables that are read of an assembled module are its pools and the places in them. -/
lemma tables_of_moduleBinary {id : ModuleId} {dependencies : List ModuleId} {binary : Bytes}
    (h : moduleBinary id dependencies = .ok binary) (hm : ofBinary binary = .ok m) :
    m.addresses = addressPool (dependencies ++ [id]) ∧
      m.identifiers = namePool (dependencies ++ [id]) ∧
      m.handles = (dependencies ++ [id]).map (place (dependencies ++ [id])) := by
  obtain ⟨header, hheader, htables⟩ := readTables_of_moduleBinary h rfl
  obtain ⟨header', hheader', -, htables'⟩ := ofBinary_eq_ok_iff.mp hm
  obtain rfl := Except.ok.inj (hheader.symm.trans hheader')
  simp only [htables, Except.ok.injEq, Prod.mk.injEq] at htables'
  exact ⟨htables'.1.symm, htables'.2.1.symm, htables'.2.2.1.symm⟩

/-- A module that is assembled from different modules repeats nothing. -/
lemma hasDistinctEntries_of_moduleBinary {id : ModuleId} {dependencies : List ModuleId}
    {binary : Bytes} (h : moduleBinary id dependencies = .ok binary)
    (hm : ofBinary binary = .ok m) (hnodup : (dependencies ++ [id]).Nodup) :
    m.HasDistinctEntries := by
  obtain ⟨haddresses, hidentifiers, hhandles⟩ := tables_of_moduleBinary h hm
  refine ⟨haddresses ▸ nodup_eraseDups _, hidentifiers ▸ nodup_eraseDups _, ?_⟩
  rw [hhandles]
  refine hnodup.map_on fun a ha b hb heq => ?_
  rw [place, place, Prod.mk.injEq] at heq
  exact congrArg₂ ModuleId.mk ((List.idxOf_inj (address_mem_addressPool ha)).mp heq.1)
    ((List.idxOf_inj (name_mem_namePool ha)).mp heq.2)

/-! ## Modules that are bundled by themselves -/

/-- **A module depends on itself only if another handle names it.**  This cannot be where no table
repeats an entry.  A module that is named once is bundled by itself, whatever it depends on; one
that is named again is a cycle by itself. -/
theorem order_alone {binary : Bytes} (h : ofBinary binary = .ok m) :
    (m.HasDistinctEntries → m.IsNamedOnce) ∧ (m.id ∉ m.dependencies ↔ m.IsNamedOnce) ∧
      ∃ d, ModuleDescriptor.ofBinary binary = .ok d ∧
        Bundle.order [d] = if m.IsNamedOnce then .ok [d] else .error ⟨[m.id, m.id]⟩ := by
  refine ⟨HasDistinctEntries.isNamedOnce, notMem_dependencies_iff, ⟨m.id, m.dependencies, binary⟩,
    ?_, ?_⟩
  · rw [ModuleDescriptor.ofBinary, h]
    rfl
  · rw [Bundle.order_singleton]
    simp only [← notMem_dependencies_iff, ite_not]

/-- A module with a dependency that is not in its bundle. -/
theorem order_alone_external :
    ∃ binary m d, ofBinary binary = .ok m ∧ m.HasDistinctEntries ∧
      m.dependencies = [Bundle.atOrigin "b"] ∧ m.id ∉ m.dependencies ∧
      ModuleDescriptor.ofBinary binary = .ok d ∧ Bundle.order [d] = .ok [d] := by
  have hentries : entries 0
      (Bytecode.Assembler.linkage [Bundle.atOrigin "b", Bundle.atOrigin "a"]) =
      [⟨.moduleHandles, 0, 4⟩, ⟨.identifiers, 4, 4⟩, ⟨.addresses, 8, 32⟩] := by cbv
  have hwritable : IsWritable [Bundle.atOrigin "b", Bundle.atOrigin "a"] :=
    ⟨by decide, by rw [hentries]; simp [Bytecode.Table.Fits, Codec.maxCount]⟩
  have hbinary : moduleBinary (Bundle.atOrigin "a") [Bundle.atOrigin "b"] = .ok _ :=
    moduleBinary_of_isWritable rfl hwritable
  obtain ⟨m, hm, -, hdependencies⟩ := exists_ofBinary_of_moduleBinary hbinary
  have hdistinct := hasDistinctEntries_of_moduleBinary hbinary hm (by decide)
  obtain ⟨hnamed, hmem, d, hd, horder⟩ := order_alone hm
  rw [if_pos (hnamed hdistinct)] at horder
  exact ⟨_, m, d, hm, hdistinct, hdependencies, hmem.mpr (hnamed hdistinct), hd, horder⟩

/-- The binary of a module `a` under the zero address, with two handles that both name it. -/
def twiceNamed : Bytes :=
  [161, 28, 235, 11, 6, 0, 0, 0, 3, 1, 0, 4, 7, 4, 2, 8, 6, 32, 0, 0, 0, 0, 1, 97] ++
    List.replicate 32 0 ++ [1]

/-- A module whose binary is accepted although it depends on itself, and which cannot be bundled. -/
theorem ofBinary_twiceNamed :
    ∃ m d, ofBinary twiceNamed = .ok m ∧ m.id = Bundle.atOrigin "a" ∧
      m.dependencies = [Bundle.atOrigin "a"] ∧ m.id ∈ m.dependencies ∧
      ModuleDescriptor.ofBinary twiceNamed = .ok d ∧
      Bundle.order [d] = .error ⟨[Bundle.atOrigin "a", Bundle.atOrigin "a"]⟩ := by
  have hentries : entries 0
      (Bytecode.Assembler.linkage [Bundle.atOrigin "a", Bundle.atOrigin "a"]) =
      [⟨.moduleHandles, 0, 4⟩, ⟨.identifiers, 4, 2⟩, ⟨.addresses, 6, 32⟩] := by cbv
  have hwritable : IsWritable [Bundle.atOrigin "a", Bundle.atOrigin "a"] :=
    ⟨by decide, by rw [hentries]; simp [Bytecode.Table.Fits, Codec.maxCount]⟩
  have hbinary : moduleBinary (Bundle.atOrigin "a") [Bundle.atOrigin "a"] = .ok twiceNamed := by
    rw [moduleBinary_of_isWritable rfl hwritable]
    cbv
  obtain ⟨m, hm, hid, hdependencies⟩ := exists_ofBinary_of_moduleBinary hbinary
  have hmem : m.id ∈ m.dependencies := by simp [hid, hdependencies]
  refine ⟨m, ⟨m.id, m.dependencies, twiceNamed⟩, hm, hid, hdependencies, hmem, ?_, ?_⟩
  · rw [ModuleDescriptor.ofBinary, hm]
    rfl
  · rw [Bundle.order_singleton_of_mem hmem, hid]

end CompiledModule

end MovePack
