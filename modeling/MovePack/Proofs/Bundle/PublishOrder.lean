/-
# The order in which modules can be published

When modules are ordered, each of them comes once, in its last copy, and after those of its
dependencies that are in the bundle.  Other dependencies play no part: without them the same order
is found.
-/
import MovePack.Proofs.Bundle.External

namespace MovePack.Bundle

open ModuleDescriptor (ids lastCopies lastCopy? withoutExternal)

/-- The modules can be published one after the other in the given order. -/
structure IsPublishOrder (modules ordered : List ModuleDescriptor) : Prop where
  /-- No module comes twice. -/
  nodup : (ids ordered).Nodup
  /-- The modules are those that were given. -/
  mem_ids_iff : ∀ id, id ∈ ids ordered ↔ id ∈ ids modules
  /-- Each module is the last copy that was given. -/
  lastCopy : ∀ d ∈ ordered, lastCopy? modules d.id = some d
  /-- The dependencies that were given come before the module. -/
  before : ∀ front d back, ordered = front ++ d :: back →
    ∀ id ∈ d.dependencies, id ∈ ids modules → id ∈ ids front

/-- A walk that is done has found an order. -/
theorem Walk.Inv.isPublishOrder {modules ordered : List ModuleDescriptor} {w : Walk}
    (h : w.Inv (lastCopies modules)) (hdone : w.step = .done ordered) :
    IsPublishOrder modules ordered := by
  rcases w.step_cases with ⟨hfresh, hpath, hstep⟩ | ⟨_, _, hstep⟩ | ⟨_, _, _, _, _, _, hstep⟩ <;>
    rw [hstep] at hdone <;> cases hdone
  have hperm : w.ordered.reverse.Perm (lastCopies modules) := by
    have hparts := h.parts
    rw [hfresh, hpath] at hparts
    exact (List.reverse_perm _).trans hparts
  have hids := hperm.map ModuleDescriptor.id
  refine ⟨?_, fun id => ?_, fun d hd => ?_, fun front d back hsplit id hdep hid => ?_⟩
  · exact hids.nodup_iff.mpr (ModuleDescriptor.nodup_ids_lastCopies modules)
  · exact hids.mem_iff.trans ModuleDescriptor.mem_ids_lastCopies_iff
  · exact ModuleDescriptor.mem_lastCopies_iff.mp (hperm.subset hd)
  · -- the walk holds the order from its end, so what is earlier there comes later in it
    have hrev : w.ordered = back.reverse ++ d :: front.reverse := by
      rw [List.reverse_eq_iff.mp hsplit]
      simp
    have hmem : id ∈ d.dependenciesAmong (lastCopies modules) :=
      ModuleDescriptor.mem_dependenciesAmong.mpr
        ⟨hdep, ModuleDescriptor.mem_ids_lastCopies_iff.mpr hid⟩
    simpa using h.closed _ _ _ hrev hmem

/-- What is returned is an order in which the modules can be published. -/
theorem isPublishOrder_of_order_eq_ok {modules ordered : List ModuleDescriptor}
    (h : order modules = .ok ordered) : IsPublishOrder modules ordered := by
  obtain ⟨last, hreach, ⟨found, hdone, hrun⟩ | ⟨cycle, _, hrun⟩⟩ :=
    Walk.exists_reaches_of_run (Walk.start modules)
  · rw [order, hrun] at h
    cases h
    exact (hreach.inv (Walk.inv_start modules)).isPublishOrder hdone
  · rw [order, hrun] at h
    cases h

/-- **Ordering is sound.**  A returned order lists every module once, in its last copy, after the
dependencies that were given with it; and it is the order that is found when all dependencies on
other modules are left out. -/
theorem order_sound {modules ordered : List ModuleDescriptor} (h : order modules = .ok ordered) :
    IsPublishOrder modules ordered ∧
      order (modules.map (withoutExternal modules)) =
        .ok (ordered.map (withoutExternal modules)) := by
  refine ⟨isPublishOrder_of_order_eq_ok h, ?_⟩
  rw [order_withoutExternal, h]
  rfl

/-- A module under the zero address. -/
def atOrigin (name : String) : ModuleId := ⟨⟨List.replicate 32 0, rfl⟩, name⟩

/-- Two modules, the second one in two copies of which only the first depends on the other, and a
dependency that is not given. -/
theorem order_sound_twoModules :
    order [⟨atOrigin "a", [atOrigin "b", atOrigin "z"], [1]⟩, ⟨atOrigin "b", [atOrigin "a"], [2]⟩,
        ⟨atOrigin "b", [], [3]⟩] =
      .ok [⟨atOrigin "b", [], [3]⟩, ⟨atOrigin "a", [atOrigin "b", atOrigin "z"], [1]⟩] ∧
    IsPublishOrder
      [⟨atOrigin "a", [atOrigin "b", atOrigin "z"], [1]⟩, ⟨atOrigin "b", [atOrigin "a"], [2]⟩,
        ⟨atOrigin "b", [], [3]⟩]
      [⟨atOrigin "b", [], [3]⟩, ⟨atOrigin "a", [atOrigin "b", atOrigin "z"], [1]⟩] := by
  have h : order [⟨atOrigin "a", [atOrigin "b", atOrigin "z"], [1]⟩,
        ⟨atOrigin "b", [atOrigin "a"], [2]⟩, ⟨atOrigin "b", [], [3]⟩] =
      .ok [⟨atOrigin "b", [], [3]⟩, ⟨atOrigin "a", [atOrigin "b", atOrigin "z"], [1]⟩] := by cbv
  exact ⟨h, (order_sound h).1⟩

end MovePack.Bundle
