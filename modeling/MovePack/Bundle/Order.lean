/-
# The order of the modules of a bundle

A module may be published only after the modules it depends on, so dependencies inside the bundle
come first; dependencies on other packages are published on their own and do not count.  The
modules are walked in ascending order, depth first, and each is put into the order when all its
dependencies have been.  The walk is a sequence of steps on a configuration that holds the modules
not entered yet, the path of modules that are being visited, and the modules already ordered.
-/
import MovePack.Bundle.Descriptor
import MovePack.LogEntry

namespace MovePack.Bundle

/-- A module with those of its dependencies that are still to be looked at, ascending. -/
structure Visit where
  /-- The module. -/
  module : ModuleDescriptor
  /-- The dependencies in the bundle that have not been looked at. -/
  pending : List ModuleId

/-- A configuration of the walk. -/
structure Walk where
  /-- The modules not entered yet, ascending, each with all its dependencies in the bundle. -/
  fresh : List Visit
  /-- The modules being visited, the innermost first. -/
  path : List Visit
  /-- The modules already ordered, the last one first. -/
  ordered : List ModuleDescriptor

/-- What a step leads to. -/
inductive Outcome where
  /-- Another configuration. -/
  | next (walk : Walk)
  /-- All modules have been ordered. -/
  | done (modules : List ModuleDescriptor)
  /-- Modules depend on each other, each on the following and the last one, which is also the
  first. -/
  | cycle (ids : List ModuleId)

/-- The visit of a module among others, and the others. -/
def takeVisit? (id : ModuleId) : List Visit → Option (Visit × List Visit)
  | [] => none
  | v :: rest =>
    if v.module.id = id then some (v, rest)
    else (takeVisit? id rest).map fun (found, others) => (found, v :: others)

/-- The members of the path from a module to the innermost one, and the module again. -/
def cycleAt (id : ModuleId) (path : List Visit) : List ModuleId :=
  let inner := (path.map (·.module.id)).takeWhile (· ≠ id)
  id :: inner.reverse ++ [id]

namespace Walk

/-- The configuration before the first step. -/
def start (modules : List ModuleDescriptor) : Walk :=
  let known := ModuleDescriptor.lastCopies modules
  { fresh := known.map fun d => ⟨d, d.dependenciesAmong known⟩
    path := []
    ordered := [] }

/-- One step: the first module not entered yet is entered when no module is being visited; else
the innermost one is put into the order when it has no dependency left to look at; else its next
dependency is entered, unless it has been already.  A dependency that is being visited closes a
cycle. -/
def step (w : Walk) : Outcome :=
  match w.path with
  | [] =>
    match w.fresh with
    | [] => .done w.ordered.reverse
    | v :: rest => .next { w with fresh := rest, path := [v] }
  | ⟨module, []⟩ :: below => .next { w with path := below, ordered := module :: w.ordered }
  | ⟨module, id :: pending⟩ :: below =>
    if w.path.any fun v => v.module.id = id then .cycle (cycleAt id w.path)
    else
      match takeVisit? id w.fresh with
      | some (v, rest) => .next { w with fresh := rest, path := v :: ⟨module, pending⟩ :: below }
      | none => .next { w with path := ⟨module, pending⟩ :: below }

/-- A bound on the number of steps for modules to be entered. -/
def freshWeight : List Visit → Nat
  | [] => 0
  | v :: rest => v.pending.length + 2 + freshWeight rest

/-- A bound on the number of steps for modules being visited. -/
def pathWeight : List Visit → Nat
  | [] => 0
  | v :: rest => v.pending.length + 1 + pathWeight rest

/-- A bound on the number of steps that follow. -/
def weight (w : Walk) : Nat := freshWeight w.fresh + pathWeight w.path

theorem freshWeight_of_takeVisit? {id : ModuleId} {vs others : List Visit} {v : Visit}
    (h : takeVisit? id vs = some (v, others)) :
    freshWeight vs = v.pending.length + 2 + freshWeight others := by
  induction vs generalizing others with
  | nil => simp [takeVisit?] at h
  | cons u rest ih =>
    unfold takeVisit? at h
    split at h
    · cases h; rfl
    · simp only [Option.map_eq_some_iff, Prod.exists, Prod.mk.injEq] at h
      obtain ⟨found, rest', hrest, rfl, rfl⟩ := h
      have := ih hrest
      simp only [freshWeight]
      omega

/-- Every step takes something off the bound. -/
theorem weight_lt_of_step {w next : Walk} (h : w.step = .next next) : next.weight < w.weight := by
  unfold step at h
  split at h
  · rename_i hp
    split at h
    · cases h
    · rename_i v rest hf
      cases h
      simp only [weight, hf, hp, freshWeight, pathWeight]
      omega
  · rename_i module below hp
    cases h
    simp only [weight, hp, pathWeight, List.length_nil]
    omega
  · rename_i module id pending below hp
    split at h
    · cases h
    · split at h
      · rename_i v rest ht
        cases h
        simp only [weight, hp, pathWeight, freshWeight_of_takeVisit? ht, List.length_cons]
        omega
      · cases h
        simp only [weight, hp, pathWeight, List.length_cons]
        omega

end Walk

/-- Modules that depend on each other in a cycle. -/
structure CycleFault where
  /-- The modules along the cycle; the first one is also the last one. -/
  cycle : List ModuleId
deriving DecidableEq

/-- The texts of the modules along the cycle. -/
def CycleFault.names (f : CycleFault) : List Text := f.cycle.map ModuleId.toText

/-- The message of modules that depend on each other. -/
def CycleFault.message (f : CycleFault) : Text :=
  "Cyclic module dependency: " ++ Text.join " -> " f.names

/-- Takes steps until the walk ends. -/
def Walk.run (w : Walk) : Except CycleFault (List ModuleDescriptor) :=
  match _step : w.step with
  | .done modules => .ok modules
  | .cycle ids => .error ⟨ids⟩
  | .next next => next.run
termination_by w.weight
decreasing_by exact Walk.weight_lt_of_step _step

/-- The modules with the dependencies of each before it; of several copies of a module the last
one. -/
def order (modules : List ModuleDescriptor) : Except CycleFault (List ModuleDescriptor) :=
  (Walk.start modules).run

/-- The log of ordering modules: a warning for every further copy of a module, and the order. -/
def orderLog (modules : List ModuleDescriptor) : List LogEntry :=
  let warnings := (ModuleDescriptor.repeatedIds modules).map fun id =>
    ⟨.warning, "Module " ++ id.toText ++ " given twice, keeping the last copy"⟩
  match order modules with
  | .error _ => warnings
  | .ok ordered =>
    warnings ++ [⟨.info, "Bundle order: " ++ Text.join ", " (ordered.map (·.id.toText))⟩]

end MovePack.Bundle
