/-
# Dependencies inside a bundle

Of several descriptors of one module the last one counts.  A module depends on another inside the
bundle when that descriptor names the other one and the bundle has it.  The bundler works on the
last copies in ascending order and on the ascending list of such dependencies of each; here both
are related to the descriptors as they were given.
-/
import Mathlib.Data.List.Basic
import MovePack.Bundle.Order
import MovePack.Proofs.Bundle.ModuleOrder

namespace MovePack

lemma eraseDups_sublist {α : Type} [BEq α] : (l : List α) → l.eraseDups.Sublist l
  | [] => by simp
  | a :: rest => by
    rw [List.eraseDups_cons]
    exact ((eraseDups_sublist _).trans List.filter_sublist).cons_cons a
termination_by l => l.length
decreasing_by
  have := List.length_filter_le (fun b => !b == a) rest
  simp only [List.length_cons]
  omega

lemma nodup_eraseDups {α : Type} [BEq α] [LawfulBEq α] : (l : List α) → l.eraseDups.Nodup
  | [] => by simp
  | a :: rest => by
    have hrest : a ∉ (rest.filter fun b => !b == a).eraseDups := by
      rw [List.mem_eraseDups]
      simp
    rw [List.eraseDups_cons]
    exact List.nodup_cons.mpr ⟨hrest, nodup_eraseDups _⟩
termination_by l => l.length
decreasing_by
  have := List.length_filter_le (fun b => !b == a) rest
  simp only [List.length_cons]
  omega

namespace ModuleId

lemma mem_ascending {l : List ModuleId} {m : ModuleId} : m ∈ ascending l ↔ m ∈ l := by
  rw [ascending, List.mem_eraseDups, List.mem_mergeSort]

lemma pairwise_ascending (l : List ModuleId) : (ascending l).Pairwise (le · ·) :=
  (List.pairwise_mergeSort le_trans le_total _).sublist (eraseDups_sublist _)

lemma nodup_ascending (l : List ModuleId) : (ascending l).Nodup := nodup_eraseDups _

lemma eq_ascending {l l' : List ModuleId} (hl : l.Pairwise (le · ·)) (nodup : l.Nodup)
    (hmem : ∀ m, m ∈ l ↔ m ∈ l') : l = ascending l' :=
  eq_of_ascending hl (pairwise_ascending l') nodup (nodup_ascending l') fun m =>
    (hmem m).trans mem_ascending.symm

lemma ascending_congr {l l' : List ModuleId} (hmem : ∀ m, m ∈ l ↔ m ∈ l') :
    ascending l = ascending l' :=
  eq_ascending (pairwise_ascending l) (nodup_ascending l) fun m => mem_ascending.trans (hmem m)

end ModuleId

namespace ModuleDescriptor

/-- The first module depends on the second one, and both are described. -/
def DependsOn (modules : List ModuleDescriptor) (a b : ModuleId) : Prop :=
  ∃ d, lastCopy? modules a = some d ∧ b ∈ d.dependencies ∧ b ∈ ids modules

@[simp] lemma ids_nil : ids [] = [] := rfl

@[simp] lemma ids_cons (d : ModuleDescriptor) (modules : List ModuleDescriptor) :
    ids (d :: modules) = d.id :: ids modules := rfl

@[simp] lemma ids_append (modules others : List ModuleDescriptor) :
    ids (modules ++ others) = ids modules ++ ids others := List.map_append

@[simp] lemma ids_reverse (modules : List ModuleDescriptor) :
    ids modules.reverse = (ids modules).reverse := List.map_reverse

lemma mem_ids {modules : List ModuleDescriptor} {m : ModuleId} :
    m ∈ ids modules ↔ ∃ d ∈ modules, d.id = m := List.mem_map

/-! ## The last copies -/

lemma lastCopy?_cons (d : ModuleDescriptor) (rest : List ModuleDescriptor) (id : ModuleId) :
    lastCopy? (d :: rest) id = (lastCopy? rest id).or (if d.id = id then some d else none) := by
  by_cases h : d.id = id <;> simp [lastCopy?, List.find?_append, h]

lemma lastCopy?_eq_none_iff {modules : List ModuleDescriptor} {id : ModuleId} :
    lastCopy? modules id = none ↔ id ∉ ids modules := by
  simp [lastCopy?, mem_ids]

lemma id_of_lastCopy? {modules : List ModuleDescriptor} {id : ModuleId} {d : ModuleDescriptor}
    (h : lastCopy? modules id = some d) : d.id = id := by
  simpa using List.find?_some h

lemma mem_of_lastCopy? {modules : List ModuleDescriptor} {id : ModuleId} {d : ModuleDescriptor}
    (h : lastCopy? modules id = some d) : d ∈ modules :=
  List.mem_reverse.mp (List.mem_of_find?_eq_some h)

/-- The descriptors that are kept are the last copies. -/
lemma mem_keepLast_iff {modules : List ModuleDescriptor} {d : ModuleDescriptor} :
    d ∈ lastCopies.keepLast modules ↔ lastCopy? modules d.id = some d := by
  induction modules with
  | nil => simp [lastCopies.keepLast, lastCopy?]
  | cons e rest ih =>
    have hany : rest.any (·.sameModule e) ↔ e.id ∈ ids rest := by
      simp [sameModule, mem_ids]
    rw [lastCopies.keepLast, lastCopy?_cons]
    by_cases he : e.id ∈ ids rest
    · -- another copy follows, so the first one is not looked at
      rw [if_pos (hany.mpr he), ih]
      by_cases hd : d.id ∈ ids rest
      · obtain ⟨f, hf⟩ := Option.ne_none_iff_exists'.mp (mt lastCopy?_eq_none_iff.mp (not_not.mpr hd))
        simp [hf]
      · have hne : e.id ≠ d.id := fun h => hd (h ▸ he)
        simp [hne]
    · rw [if_neg (mt hany.mp he), List.mem_cons, ih]
      by_cases hd : e.id = d.id
      · have hnone : lastCopy? rest d.id = none := lastCopy?_eq_none_iff.mpr (hd ▸ he)
        simp [hnone, hd, eq_comm]
      · have hde : d ≠ e := fun h => hd (h ▸ rfl)
        simp [hd, hde]

lemma nodup_ids_keepLast (modules : List ModuleDescriptor) :
    (ids (lastCopies.keepLast modules)).Nodup := by
  induction modules with
  | nil => simp [lastCopies.keepLast]
  | cons e rest ih =>
    rw [lastCopies.keepLast]
    split
    · exact ih
    · rename_i h
      refine List.nodup_cons.mpr ⟨fun hmem => h ?_, ih⟩
      obtain ⟨d, hd, hid⟩ := mem_ids.mp hmem
      have hrest := mem_of_lastCopy? (mem_keepLast_iff.mp hd)
      exact List.any_eq_true.mpr ⟨d, hrest, by simp [sameModule, hid]⟩

lemma lastCopies_perm (modules : List ModuleDescriptor) :
    (lastCopies modules).Perm (lastCopies.keepLast modules) := List.mergeSort_perm _ _

lemma mem_lastCopies_iff {modules : List ModuleDescriptor} {d : ModuleDescriptor} :
    d ∈ lastCopies modules ↔ lastCopy? modules d.id = some d := by
  rw [(lastCopies_perm modules).mem_iff, mem_keepLast_iff]

lemma nodup_ids_lastCopies (modules : List ModuleDescriptor) :
    (ids (lastCopies modules)).Nodup :=
  ((lastCopies_perm modules).map _).nodup_iff.mpr (nodup_ids_keepLast modules)

/-- Taking the last copies loses no module. -/
lemma mem_ids_lastCopies_iff {modules : List ModuleDescriptor} {m : ModuleId} :
    m ∈ ids (lastCopies modules) ↔ m ∈ ids modules := by
  constructor
  · intro h
    obtain ⟨d, hd, rfl⟩ := mem_ids.mp h
    exact mem_ids.mpr ⟨d, mem_of_lastCopy? (mem_lastCopies_iff.mp hd), rfl⟩
  · intro h
    obtain ⟨d, hd⟩ := Option.ne_none_iff_exists'.mp (mt lastCopy?_eq_none_iff.mp (not_not.mpr h))
    have hid := id_of_lastCopy? hd
    exact mem_ids.mpr ⟨d, mem_lastCopies_iff.mpr (hid ▸ hd), hid⟩

lemma pairwise_lastCopies (modules : List ModuleDescriptor) :
    (lastCopies modules).Pairwise fun a b => a.id.le b.id :=
  List.pairwise_mergeSort (fun a b c => ModuleId.le_trans a.id b.id c.id)
    (fun a b => ModuleId.le_total a.id b.id) _

/-- The last copies are in the ascending order of their modules. -/
lemma ids_lastCopies (modules : List ModuleDescriptor) :
    ids (lastCopies modules) = ModuleId.ascending (ids modules) :=
  ModuleId.eq_ascending (List.pairwise_map.mpr (pairwise_lastCopies modules))
    (nodup_ids_lastCopies modules) fun _ => mem_ids_lastCopies_iff

/-! ## The dependencies among the modules of a bundle -/

/-- What the walk looks at are the dependencies inside the bundle, in ascending order. -/
lemma dependenciesAmong_eq_ascending (known : List ModuleDescriptor) (d : ModuleDescriptor) :
    d.dependenciesAmong known = ModuleId.ascending (d.dependencies.filter (· ∈ ids known)) := by
  have hdistinct : d.distinctDependencies = ModuleId.ascending d.dependencies := rfl
  rw [dependenciesAmong, hdistinct]
  exact ModuleId.eq_ascending
    ((ModuleId.pairwise_ascending _).sublist List.filter_sublist)
    ((ModuleId.nodup_ascending _).sublist List.filter_sublist)
    (by simp [ModuleId.mem_ascending, mem_ids])

lemma mem_dependenciesAmong {known : List ModuleDescriptor} {d : ModuleDescriptor} {m : ModuleId} :
    m ∈ d.dependenciesAmong known ↔ m ∈ d.dependencies ∧ m ∈ ids known := by
  rw [dependenciesAmong_eq_ascending, ModuleId.mem_ascending]
  simp

/-- The dependencies that a descriptor has among the last copies are those inside the bundle. -/
lemma dependenciesAmong_lastCopies (modules : List ModuleDescriptor) (d : ModuleDescriptor) :
    d.dependenciesAmong (lastCopies modules) =
      ModuleId.ascending (d.dependencies.filter (· ∈ ids modules)) := by
  rw [dependenciesAmong_eq_ascending]
  exact ModuleId.ascending_congr (by simp [mem_ids_lastCopies_iff])

/-- The dependencies inside a bundle are determined by their members. -/
lemma dependenciesAmong_congr {known known' : List ModuleDescriptor} {d d' : ModuleDescriptor}
    (h : ∀ m, (m ∈ d.dependencies ∧ m ∈ ids known) ↔ (m ∈ d'.dependencies ∧ m ∈ ids known')) :
    d.dependenciesAmong known = d'.dependenciesAmong known' := by
  rw [dependenciesAmong_eq_ascending, dependenciesAmong_eq_ascending]
  exact ModuleId.ascending_congr (by simpa using h)

/-- Among the last copies, dependencies inside the bundle are those that the walk looks at. -/
lemma dependsOn_iff {modules : List ModuleDescriptor} {a b : ModuleId} :
    DependsOn modules a b ↔
      ∃ d ∈ lastCopies modules, d.id = a ∧ b ∈ d.dependenciesAmong (lastCopies modules) := by
  simp only [DependsOn, mem_dependenciesAmong, mem_ids_lastCopies_iff, mem_lastCopies_iff]
  constructor
  · rintro ⟨d, hd, hb⟩
    have hid := id_of_lastCopy? hd
    exact ⟨d, hid ▸ hd, hid, hb⟩
  · rintro ⟨d, hd, rfl, hb⟩
    exact ⟨d, hd, hb⟩

end ModuleDescriptor

end MovePack
