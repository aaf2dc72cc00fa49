/-
# Dependencies outside a bundle

A walk sees only the identities of modules and their dependencies inside the bundle.  It makes the
same steps when descriptors are replaced by others of the same modules, and in particular when
they lose the dependencies that are not in the bundle.
-/
import MovePack.Proofs.Bundle.Walk

namespace MovePack

namespace ModuleDescriptor

/-- The descriptor without the dependencies that are not among the given modules. -/
def withoutExternal (modules : List ModuleDescriptor) (d : ModuleDescriptor) : ModuleDescriptor :=
  { d with dependencies := d.dependencies.filter fun id => id ∈ ids modules }

@[simp] lemma id_withoutExternal (modules : List ModuleDescriptor) (d : ModuleDescriptor) :
    (d.withoutExternal modules).id = d.id := rfl

section SameIds

variable {f : ModuleDescriptor → ModuleDescriptor} (hf : ∀ d, (f d).id = d.id)

include hf

lemma ids_map (modules : List ModuleDescriptor) : ids (modules.map f) = ids modules := by
  simp [ids, Function.comp_def, hf]

lemma keepLast_map (modules : List ModuleDescriptor) :
    lastCopies.keepLast (modules.map f) = (lastCopies.keepLast modules).map f := by
  induction modules with
  | nil => rfl
  | cons d rest ih =>
    have hany : (rest.map f).any (·.sameModule (f d)) = rest.any (·.sameModule d) := by
      simp [List.any_map, Function.comp_def, sameModule, hf]
    rw [List.map_cons, lastCopies.keepLast, lastCopies.keepLast, hany]
    split
    · exact ih
    · rw [ih, List.map_cons]

lemma lastCopies_map (modules : List ModuleDescriptor) :
    lastCopies (modules.map f) = (lastCopies modules).map f := by
  rw [lastCopies, lastCopies, keepLast_map hf]
  exact (List.map_mergeSort fun a _ b _ => by rw [hf, hf]).symm

end SameIds

/-- Among the last copies, a module has the same dependencies without the external ones. -/
lemma dependenciesAmong_withoutExternal (modules : List ModuleDescriptor) (d : ModuleDescriptor) :
    (d.withoutExternal modules).dependenciesAmong
        ((lastCopies modules).map (withoutExternal modules)) =
      d.dependenciesAmong (lastCopies modules) := by
  apply dependenciesAmong_congr
  intro m
  rw [ids_map (id_withoutExternal modules), mem_ids_lastCopies_iff]
  simp [withoutExternal]

end ModuleDescriptor

namespace Bundle

open ModuleDescriptor (withoutExternal lastCopies)

/-- The visit of another descriptor. -/
def Visit.map (f : ModuleDescriptor → ModuleDescriptor) (v : Visit) : Visit :=
  ⟨f v.module, v.pending⟩

/-- The walk over other descriptors. -/
def Walk.map (f : ModuleDescriptor → ModuleDescriptor) (w : Walk) : Walk :=
  ⟨w.fresh.map (Visit.map f), w.path.map (Visit.map f), w.ordered.map f⟩

/-- The same outcome of a walk over other descriptors. -/
def Outcome.map (f : ModuleDescriptor → ModuleDescriptor) : Outcome → Outcome
  | .next walk => .next (walk.map f)
  | .done modules => .done (modules.map f)
  | .cycle ids => .cycle ids

section SameIds

variable {f : ModuleDescriptor → ModuleDescriptor} (hf : ∀ d, (f d).id = d.id)

include hf

lemma takeVisit?_map (id : ModuleId) (vs : List Visit) :
    takeVisit? id (vs.map (Visit.map f)) =
      (takeVisit? id vs).map fun (v, others) => (v.map f, others.map (Visit.map f)) := by
  induction vs with
  | nil => rfl
  | cons v rest ih =>
    have hid : (v.map f).module.id = v.module.id := hf v.module
    rw [List.map_cons, takeVisit?, takeVisit?, hid, ih]
    split
    · rfl
    · cases takeVisit? id rest <;> rfl

lemma cycleAt_map (id : ModuleId) (path : List Visit) :
    cycleAt id (path.map (Visit.map f)) = cycleAt id path := by
  simp [cycleAt, Function.comp_def, Visit.map, hf]

/-- Steps do not depend on what descriptors hold beside the identity. -/
lemma Walk.step_map (w : Walk) : (w.map f).step = w.step.map f := by
  obtain ⟨fresh, path, ordered⟩ := w
  rcases path with _ | ⟨⟨module, _ | ⟨id, pending⟩⟩, below⟩
  · cases fresh <;> simp [Walk.map, step, Outcome.map]
  · simp [Walk.map, step, Outcome.map, Visit.map]
  · have hany : ((⟨module, id :: pending⟩ :: below).map (Visit.map f)).any
        (fun v => v.module.id = id) =
        (⟨module, id :: pending⟩ :: below : List Visit).any fun v => v.module.id = id := by
      simp [Function.comp_def, Visit.map, hf]
    have hcycle := cycleAt_map hf id (⟨module, id :: pending⟩ :: below)
    have htake := takeVisit?_map hf id fresh
    -- both conditions of the step, and the cycle, see identities only
    simp only [Walk.map, step, List.map_cons, Visit.map] at hany hcycle ⊢
    rw [hany, hcycle, htake]
    split
    · rfl
    · cases takeVisit? id fresh <;> simp [Outcome.map, Walk.map, Visit.map]

lemma Walk.run_map (w : Walk) : (w.map f).run = w.run.map (List.map f) := by
  fun_induction run w with
  | case1 w modules hstep =>
    have hmap : (w.map f).step = .done (modules.map f) := by rw [step_map hf, hstep, Outcome.map]
    rw [run_of_done hmap]
    rfl
  | case2 w ids hstep =>
    have hmap : (w.map f).step = .cycle ids := by rw [step_map hf, hstep, Outcome.map]
    rw [run_of_cycle hmap]
    rfl
  | case3 w next hstep ih =>
    have hmap : (w.map f).step = .next (next.map f) := by rw [step_map hf, hstep, Outcome.map]
    rw [run_of_next hmap]
    exact ih

variable {modules : List ModuleDescriptor}
  (hdependencies : ∀ d, (f d).dependenciesAmong ((lastCopies modules).map f) =
    d.dependenciesAmong (lastCopies modules))

include hdependencies

lemma Walk.start_map : start (modules.map f) = (start modules).map f := by
  have hcopies := ModuleDescriptor.lastCopies_map hf modules
  simp only [start, Walk.map, hcopies, List.map_map, List.map_nil, Walk.mk.injEq, and_true]
  refine List.map_congr_left fun d _ => ?_
  simp [Visit.map, hdependencies]

/-- Ordering sees the identities of modules and their dependencies in the bundle. -/
theorem order_map : order (modules.map f) = (order modules).map (List.map f) := by
  rw [order, Walk.start_map hf hdependencies]
  exact Walk.run_map hf _

end SameIds

/-- Dependencies that are not in the bundle play no part in ordering it. -/
theorem order_withoutExternal (modules : List ModuleDescriptor) :
    order (modules.map (withoutExternal modules)) =
      (order modules).map (List.map (withoutExternal modules)) :=
  order_map (ModuleDescriptor.id_withoutExternal modules)
    (ModuleDescriptor.dependenciesAmong_withoutExternal modules)

end Bundle

end MovePack
