/-
# The order in which modules are given

Modules are ordered by what is known of each of them, and not by where it stands in the input: the
last copies of the modules determine the outcome, an order or a cycle.  The dependencies of a module
are a set, so it does not matter either how they are listed.  Modules in the order that was found
are therefore left as they are.
-/
import Mathlib.Data.Finset.Dedup
import Mathlib.Data.Finset.Insert
import Mathlib.Logic.Function.Basic
import MovePack.Proofs.Bundle.PublishOrder

namespace MovePack

namespace ModuleDescriptor

/-! ## Last copies determine the outcome -/

lemma lastCopy?_eq_some_iff_of_nodup {modules : List ModuleDescriptor} (h : (ids modules).Nodup)
    {id : ModuleId} {d : ModuleDescriptor} :
    lastCopy? modules id = some d ↔ d ∈ modules ∧ d.id = id := by
  constructor
  · exact fun hd => ⟨mem_of_lastCopy? hd, id_of_lastCopy? hd⟩
  · rintro ⟨hd, rfl⟩
    have hmem : d.id ∈ ids modules := mem_ids.mpr ⟨d, hd, rfl⟩
    obtain ⟨e, he⟩ := Option.ne_none_iff_exists'.mp (mt lastCopy?_eq_none_iff.mp (not_not.mpr hmem))
    have hed : e = d := List.inj_on_of_nodup_map h (mem_of_lastCopy? he) hd (id_of_lastCopy? he)
    rw [he, hed]

lemma lastCopies_congr {modules modules' : List ModuleDescriptor}
    (h : ∀ id, lastCopy? modules id = lastCopy? modules' id) :
    lastCopies modules = lastCopies modules' := by
  have hmem : ∀ d, d ∈ lastCopies modules ↔ d ∈ lastCopies modules' := fun d => by
    rw [mem_lastCopies_iff, mem_lastCopies_iff, h]
  have hperm : (lastCopies modules).Perm (lastCopies modules') :=
    (List.perm_ext_iff_of_nodup (nodup_ids_lastCopies modules).of_map
      (nodup_ids_lastCopies modules').of_map).mpr hmem
  refine hperm.eq_of_pairwise (fun a b ha hb hab hba => ?_) (pairwise_lastCopies modules)
    (pairwise_lastCopies modules')
  -- two last copies of one module are the same descriptor
  have hid : a.id = b.id := ModuleId.le_antisymm hab hba
  exact List.inj_on_of_nodup_map (nodup_ids_lastCopies modules) ha ((hmem b).mpr hb) hid

/-! ## Dependencies are a set -/

/-- What is known of a module: its identity, the set of the modules it depends on, and its
binary. -/
def content (d : ModuleDescriptor) : ModuleId × Finset ModuleId × Bytes :=
  (d.id, d.dependencies.toFinset, d.code)

/-- The descriptor with its dependencies in ascending order, each once. -/
def sorted (d : ModuleDescriptor) : ModuleDescriptor :=
  { d with dependencies := ModuleId.ascending d.dependencies }

@[simp] lemma id_sorted (d : ModuleDescriptor) : d.sorted.id = d.id := rfl

@[simp] lemma content_sorted (d : ModuleDescriptor) : d.sorted.content = d.content := by
  have hdependencies : (ModuleId.ascending d.dependencies).toFinset = d.dependencies.toFinset := by
    ext m
    simp [ModuleId.mem_ascending]
  simp [content, sorted, hdependencies]

/-- Descriptors of the same content are sorted into the same descriptor. -/
lemma sorted_factorsThrough_content : Function.FactorsThrough sorted content := by
  intro d e h
  obtain ⟨id, dependencies, code⟩ := d
  obtain ⟨id', dependencies', code'⟩ := e
  simp only [content, Prod.mk.injEq] at h
  obtain ⟨rfl, hdependencies, rfl⟩ := h
  have hsame : ModuleId.ascending dependencies = ModuleId.ascending dependencies' :=
    ModuleId.ascending_congr fun m => by simpa using Finset.ext_iff.mp hdependencies m
  simp [sorted, hsame]

lemma dependenciesAmong_sorted (known : List ModuleDescriptor) (d : ModuleDescriptor) :
    d.sorted.dependenciesAmong (known.map sorted) = d.dependenciesAmong known := by
  apply dependenciesAmong_congr
  intro m
  rw [ids_map id_sorted]
  simp [sorted, ModuleId.mem_ascending]

end ModuleDescriptor

namespace Bundle

open ModuleDescriptor (content ids lastCopy? lastCopies sorted)

variable {modules modules' kept ordered : List ModuleDescriptor}

lemma order_congr (h : ∀ id, lastCopy? modules id = lastCopy? modules' id) :
    order modules = order modules' := by
  rw [order, order, Walk.start, Walk.start, ModuleDescriptor.lastCopies_congr h]

/-- The last copies alone are ordered as all copies are. -/
lemma order_eq_of_mem_iff (hnodup : (ids kept).Nodup)
    (h : ∀ d, d ∈ kept ↔ lastCopy? modules d.id = some d) : order kept = order modules := by
  apply order_congr
  intro id
  ext d
  rw [ModuleDescriptor.lastCopy?_eq_some_iff_of_nodup hnodup, h]
  constructor
  · rintro ⟨hd, rfl⟩
    exact hd
  · intro hd
    have hid := ModuleDescriptor.id_of_lastCopy? hd
    exact ⟨hid ▸ hd, hid⟩

lemma order_eq_of_perm (hnodup : (ids modules).Nodup) (h : modules.Perm modules') :
    order modules = order modules' := by
  refine (order_eq_of_mem_iff ((h.map _).nodup_iff.mp hnodup) fun d => ?_).symm
  rw [← h.mem_iff, ModuleDescriptor.lastCopy?_eq_some_iff_of_nodup hnodup]
  simp

lemma order_map_sorted (modules : List ModuleDescriptor) :
    order (modules.map sorted) = (order modules).map (List.map sorted) :=
  order_map ModuleDescriptor.id_sorted (ModuleDescriptor.dependenciesAmong_sorted _)

lemma map_content_order (modules : List ModuleDescriptor) :
    (order modules).map (List.map content) =
      (order (modules.map sorted)).map (List.map content) := by
  rw [order_map_sorted]
  cases order modules with
  | error f => rfl
  | ok ordered => simp [Except.map]

/-- In an order of modules stand their last copies. -/
lemma IsPublishOrder.mem_iff (h : IsPublishOrder modules ordered) (d : ModuleDescriptor) :
    d ∈ ordered ↔ lastCopy? modules d.id = some d := by
  refine ⟨h.lastCopy d, fun hd => ?_⟩
  have hmem : d.id ∈ ids modules :=
    ModuleDescriptor.mem_ids.mpr ⟨d, ModuleDescriptor.mem_of_lastCopy? hd, rfl⟩
  obtain ⟨e, he, hid⟩ := ModuleDescriptor.mem_ids.mp ((h.mem_ids_iff d.id).mpr hmem)
  have hed : some e = some d := by rw [← h.lastCopy e he, hid, hd]
  exact Option.some.inj hed ▸ he

/-- **Ordering does not depend on the input order.**  Modules that differ in where they stand and in
how their dependencies are listed have the same order, or the same cycle is reported; of several
copies the last ones alone have the outcome of all; and modules that have been ordered are left as
they are. -/
theorem order_input_independent :
    (∀ modules modules' : List ModuleDescriptor, (ids modules).Nodup →
      (modules.map content).Perm (modules'.map content) →
        (order modules).map (List.map content) = (order modules').map (List.map content)) ∧
    (∀ modules kept : List ModuleDescriptor, (ids kept).Nodup →
      (∀ d, d ∈ kept ↔ lastCopy? modules d.id = some d) → order kept = order modules) ∧
    ∀ modules ordered : List ModuleDescriptor,
      order modules = .ok ordered → order ordered = .ok ordered := by
  refine ⟨fun modules modules' hnodup hperm => ?_, fun _ _ => order_eq_of_mem_iff,
    fun modules ordered h => ?_⟩
  · have : Nonempty ModuleDescriptor := ⟨⟨atOrigin "", [], []⟩⟩
    obtain ⟨rebuild, hrebuild⟩ := (Function.factorsThrough_iff _).mp
      ModuleDescriptor.sorted_factorsThrough_content
    have hsorted : (modules.map sorted).Perm (modules'.map sorted) := by
      simpa [hrebuild] using hperm.map rebuild
    have hids : (ids (modules.map sorted)).Nodup := by
      rwa [ModuleDescriptor.ids_map ModuleDescriptor.id_sorted]
    rw [map_content_order modules, map_content_order modules', order_eq_of_perm hids hsorted]
  · have hpublish := isPublishOrder_of_order_eq_ok h
    rw [order_eq_of_mem_iff hpublish.nodup hpublish.mem_iff, h]

/-- Two modules in either order, with the dependencies of the first one listed in either order, and
copies of which the first one closes a cycle. -/
theorem order_input_independent_twoModules :
    order [⟨atOrigin "a", [atOrigin "b", atOrigin "z"], [1]⟩, ⟨atOrigin "b", [], [2]⟩] =
      .ok [⟨atOrigin "b", [], [2]⟩, ⟨atOrigin "a", [atOrigin "b", atOrigin "z"], [1]⟩] ∧
    (order [⟨atOrigin "b", [], [2]⟩, ⟨atOrigin "a", [atOrigin "z", atOrigin "b"], [1]⟩]).map
        (List.map content) =
      .ok [(atOrigin "b", ∅, [2]), (atOrigin "a", {atOrigin "b", atOrigin "z"}, [1])] ∧
    order [⟨atOrigin "b", [], [2]⟩, ⟨atOrigin "a", [atOrigin "b"], [1]⟩] =
      order [⟨atOrigin "a", [atOrigin "a"], [0]⟩, ⟨atOrigin "b", [], [2]⟩,
        ⟨atOrigin "a", [atOrigin "b"], [1]⟩] ∧
    order [⟨atOrigin "b", [], [2]⟩, ⟨atOrigin "a", [atOrigin "b", atOrigin "z"], [1]⟩] =
      .ok [⟨atOrigin "b", [], [2]⟩, ⟨atOrigin "a", [atOrigin "b", atOrigin "z"], [1]⟩] := by
  have horder : order [⟨atOrigin "a", [atOrigin "b", atOrigin "z"], [1]⟩,
      ⟨atOrigin "b", [], [2]⟩] =
      .ok [⟨atOrigin "b", [], [2]⟩, ⟨atOrigin "a", [atOrigin "b", atOrigin "z"], [1]⟩] := by cbv
  have hcontent := order_input_independent.1
    [⟨atOrigin "a", [atOrigin "b", atOrigin "z"], [1]⟩, ⟨atOrigin "b", [], [2]⟩]
    [⟨atOrigin "b", [], [2]⟩, ⟨atOrigin "a", [atOrigin "z", atOrigin "b"], [1]⟩]
    (by decide) (by decide)
  have hcopies := order_input_independent.2.1
    [⟨atOrigin "a", [atOrigin "a"], [0]⟩, ⟨atOrigin "b", [], [2]⟩,
      ⟨atOrigin "a", [atOrigin "b"], [1]⟩]
    _ (ModuleDescriptor.nodup_ids_keepLast _) fun _ => ModuleDescriptor.mem_keepLast_iff
  refine ⟨horder, ?_, hcopies, order_input_independent.2.2 _ _ horder⟩
  rw [← hcontent, horder]
  decide

end Bundle

end MovePack
