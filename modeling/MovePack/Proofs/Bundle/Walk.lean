/-
# The walk over the modules of a bundle

A walk holds the modules that have not been entered, the path of those being visited and those
already ordered.  Whatever the dependencies are, three facts hold in every configuration that a
walk reaches: the three parts together are the modules of the bundle, each once; each module on the
path was entered from the dependency that the module below it looked at last, all before that one
being ordered; and an ordered module comes after its dependencies.  From these it follows what a
walk is when it ends, with an order or with a cycle.
-/
import Mathlib.Data.List.Chain
import Mathlib.Data.List.Permutation
import Mathlib.Logic.Relation
import MovePack.Proofs.Bundle.Dependency

namespace MovePack.Bundle

open ModuleDescriptor (ids mem_ids mem_dependenciesAmong)

/-- The modules of visits. -/
def modulesOf (visits : List Visit) : List ModuleDescriptor := visits.map (·.module)

@[simp] lemma modulesOf_nil : modulesOf [] = [] := rfl

@[simp] lemma modulesOf_cons (v : Visit) (visits : List Visit) :
    modulesOf (v :: visits) = v.module :: modulesOf visits := rfl

lemma takeVisit?_eq_some {id : ModuleId} {vs others : List Visit} {v : Visit}
    (h : takeVisit? id vs = some (v, others)) : v.module.id = id ∧ vs.Perm (v :: others) := by
  induction vs generalizing others with
  | nil => simp [takeVisit?] at h
  | cons u rest ih =>
    rw [takeVisit?] at h
    split at h
    · rename_i hid
      cases h
      exact ⟨hid, List.Perm.refl _⟩
    · obtain ⟨⟨found, others'⟩, htake, heq⟩ := Option.map_eq_some_iff.mp h
      cases heq
      obtain ⟨hid, hperm⟩ := ih htake
      exact ⟨hid, (hperm.cons u).trans (List.Perm.swap _ _ _)⟩

lemma takeVisit?_sublist {id : ModuleId} {vs others : List Visit} {v : Visit}
    (h : takeVisit? id vs = some (v, others)) : others.Sublist vs := by
  induction vs generalizing others with
  | nil => simp [takeVisit?] at h
  | cons u rest ih =>
    rw [takeVisit?] at h
    split at h
    · cases h
      exact List.sublist_cons_self _ _
    · obtain ⟨⟨found, others'⟩, htake, heq⟩ := Option.map_eq_some_iff.mp h
      cases heq
      exact (ih htake).cons_cons u

lemma takeVisit?_eq_none {id : ModuleId} {vs : List Visit} (h : takeVisit? id vs = none) :
    id ∉ ids (modulesOf vs) := by
  induction vs with
  | nil => simp
  | cons u rest ih =>
    rw [takeVisit?] at h
    split at h
    · simp at h
    · rename_i hid
      have hrest := ih (Option.map_eq_none_iff.mp h)
      simpa [hrest] using Ne.symm hid

namespace Walk

/-! ## Steps -/

/-- One configuration follows another. -/
inductive Next : Walk → Walk → Prop
  /-- No module is being visited, and the first module that is left is entered. -/
  | root {v rest ordered} : Next ⟨v :: rest, [], ordered⟩ ⟨rest, [v], ordered⟩
  /-- The innermost module has looked at all its dependencies and is ordered. -/
  | leave {fresh module below ordered} :
      Next ⟨fresh, ⟨module, []⟩ :: below, ordered⟩ ⟨fresh, below, module :: ordered⟩
  /-- The next dependency has not been entered, and is. -/
  | enter {fresh module id pending below ordered v rest}
      (hpath : id ∉ ids (module :: modulesOf below)) (htake : takeVisit? id fresh = some (v, rest)) :
      Next ⟨fresh, ⟨module, id :: pending⟩ :: below, ordered⟩
        ⟨rest, v :: ⟨module, pending⟩ :: below, ordered⟩
  /-- The next dependency has been ordered. -/
  | pass {fresh module id pending below ordered}
      (hpath : id ∉ ids (module :: modulesOf below)) (htake : takeVisit? id fresh = none) :
      Next ⟨fresh, ⟨module, id :: pending⟩ :: below, ordered⟩
        ⟨fresh, ⟨module, pending⟩ :: below, ordered⟩

lemma any_path_iff {path : List Visit} {id : ModuleId} :
    path.any (fun v => v.module.id = id) ↔ id ∈ ids (modulesOf path) := by
  simp [modulesOf, mem_ids]

/-- What a step leads to, with everything that is known where it is taken. -/
lemma step_cases (w : Walk) :
    (w.fresh = [] ∧ w.path = [] ∧ w.step = .done w.ordered.reverse) ∨
      (∃ next, Next w next ∧ w.step = .next next) ∨
      ∃ module id pending below, w.path = ⟨module, id :: pending⟩ :: below ∧
        id ∈ ids (modulesOf w.path) ∧ w.step = .cycle (cycleAt id w.path) := by
  obtain ⟨fresh, path, ordered⟩ := w
  rcases path with _ | ⟨⟨module, _ | ⟨id, pending⟩⟩, below⟩
  · cases fresh with
    | nil => exact .inl ⟨rfl, rfl, rfl⟩
    | cons v rest => exact .inr (.inl ⟨_, .root, rfl⟩)
  · exact .inr (.inl ⟨_, .leave, rfl⟩)
  · by_cases hpath : id ∈ ids (modulesOf (⟨module, id :: pending⟩ :: below))
    · refine .inr (.inr ⟨module, id, pending, below, rfl, hpath, ?_⟩)
      simp only [step]
      rw [if_pos (any_path_iff.mpr hpath)]
    · refine .inr (.inl ?_)
      simp only [step]
      rw [if_neg (mt any_path_iff.mp hpath)]
      cases htake : takeVisit? id fresh with
      | none => exact ⟨_, .pass hpath htake, rfl⟩
      | some found => exact ⟨_, .enter hpath htake, rfl⟩

lemma run_of_done {w : Walk} {ordered : List ModuleDescriptor} (h : w.step = .done ordered) :
    w.run = .ok ordered := by
  rw [run]
  split <;> rename_i heq <;> rw [h] at heq <;> cases heq
  rfl

lemma run_of_cycle {w : Walk} {cycle : List ModuleId} (h : w.step = .cycle cycle) :
    w.run = .error ⟨cycle⟩ := by
  rw [run]
  split <;> rename_i heq <;> rw [h] at heq <;> cases heq
  rfl

lemma run_of_next {w next : Walk} (h : w.step = .next next) : w.run = next.run := by
  rw [run]
  split <;> rename_i heq <;> rw [h] at heq <;> cases heq
  rfl

/-- A walk reaches a configuration. -/
def Reaches : Walk → Walk → Prop := Relation.ReflTransGen Next

/-- A run ends where the walk it starts from stops. -/
lemma exists_reaches_of_run (w : Walk) :
    ∃ last, Reaches w last ∧
      ((∃ modules, last.step = .done modules ∧ w.run = .ok modules) ∨
        ∃ ids, last.step = .cycle ids ∧ w.run = .error ⟨ids⟩) := by
  fun_induction run w with
  | case1 w modules hstep => exact ⟨w, .refl, .inl ⟨modules, hstep, rfl⟩⟩
  | case2 w ids hstep => exact ⟨w, .refl, .inr ⟨ids, hstep, rfl⟩⟩
  | case3 w next hstep ih =>
    obtain ⟨last, hreach, hlast⟩ := ih
    refine ⟨last, .head ?_ hreach, hlast⟩
    rcases step_cases w with ⟨_, _, h⟩ | ⟨next', hnext, h⟩ | ⟨_, _, _, _, _, _, h⟩ <;>
      rw [h] at hstep <;> cases hstep
    exact hnext

/-! ## The invariant -/

/-- The path from the innermost visit on, where `inner?` is the module that was entered from the
first of them: what each module has looked at is ordered, but for the one entered from it. -/
def PathFrom (known ordered : List ModuleDescriptor) : Option ModuleId → List Visit → Prop
  | _, [] => True
  | inner?, v :: below =>
    (∃ seen, v.module.dependenciesAmong known = seen ++ inner?.toList ++ v.pending ∧
      seen ⊆ ids ordered) ∧ PathFrom known ordered (some v.module.id) below

/-- What holds in every configuration of a walk over known modules. -/
structure Inv (known : List ModuleDescriptor) (w : Walk) : Prop where
  /-- The modules to enter, on the path and ordered are the known ones. -/
  parts : (modulesOf w.fresh ++ (modulesOf w.path ++ w.ordered)).Perm known
  /-- Modules to enter have looked at none of their dependencies. -/
  fresh : ∀ v ∈ w.fresh, v.pending = v.module.dependenciesAmong known
  /-- Every module on the path was entered from the one below it. -/
  path : PathFrom known w.ordered none w.path
  /-- The dependencies of an ordered module were ordered before it. -/
  closed : ∀ later d earlier, w.ordered = later ++ d :: earlier →
    d.dependenciesAmong known ⊆ ids earlier

variable {known : List ModuleDescriptor} {w next : Walk}

lemma PathFrom.mono {ordered ordered' : List ModuleDescriptor} {inner? : Option ModuleId}
    {path : List Visit} (hsub : ids ordered ⊆ ids ordered')
    (h : PathFrom known ordered inner? path) : PathFrom known ordered' inner? path := by
  induction path generalizing inner? with
  | nil => trivial
  | cons v below ih =>
    obtain ⟨⟨seen, heq, hseen⟩, hbelow⟩ := h
    exact ⟨⟨seen, heq, List.Subset.trans hseen hsub⟩, ih hbelow⟩

/-- The module that a visit was made from has looked at the visited one when that is ordered. -/
lemma PathFrom.leave {module : ModuleDescriptor} {ordered : List ModuleDescriptor}
    {path : List Visit} (h : PathFrom known ordered (some module.id) path) :
    PathFrom known (module :: ordered) none path := by
  have hsub : ids ordered ⊆ ids (module :: ordered) := List.subset_cons_self _ _
  cases path with
  | nil => trivial
  | cons v below =>
    obtain ⟨⟨seen, heq, hseen⟩, hbelow⟩ := h
    refine ⟨⟨seen ++ [module.id], by simpa using heq, ?_⟩, hbelow.mono hsub⟩
    exact List.append_subset.mpr ⟨List.Subset.trans hseen hsub, by simp⟩

/-- What a module on the path has not looked at yet is in the bundle. -/
lemma PathFrom.pending_subset {ordered : List ModuleDescriptor} {inner? : Option ModuleId}
    {v : Visit} {below : List Visit} (h : PathFrom known ordered inner? (v :: below)) :
    v.pending ⊆ ids known := by
  obtain ⟨⟨seen, heq, -⟩, -⟩ := h
  intro id hid
  have hmem : id ∈ v.module.dependenciesAmong known := by simp [heq, hid]
  exact (mem_dependenciesAmong.mp hmem).2

/-- The three parts of a configuration have no module in common. -/
lemma Inv.nodup_ids (h : Inv known w) (hknown : (ids known).Nodup) :
    (ids (modulesOf w.fresh) ++ (ids (modulesOf w.path) ++ ids w.ordered)).Nodup := by
  have hall := (h.parts.map ModuleDescriptor.id).nodup_iff.mpr hknown
  simpa only [ids, List.map_append] using hall

lemma Inv.nodup_path (h : Inv known w) (hknown : (ids known).Nodup) :
    (ids (modulesOf w.path)).Nodup :=
  (List.nodup_append.mp (List.nodup_append.mp (h.nodup_ids hknown)).2.1).1

lemma Inv.notMem_path_of_mem_fresh (h : Inv known w) (hknown : (ids known).Nodup) {id : ModuleId}
    (hid : id ∈ ids (modulesOf w.fresh)) : id ∉ ids (modulesOf w.path) := fun hmem =>
  (List.nodup_append.mp (h.nodup_ids hknown)).2.2 id hid id (List.mem_append_left _ hmem) rfl

lemma Inv.notMem_ordered_of_mem_fresh (h : Inv known w) (hknown : (ids known).Nodup)
    {id : ModuleId} (hid : id ∈ ids (modulesOf w.fresh)) : id ∉ ids w.ordered := fun hmem =>
  (List.nodup_append.mp (h.nodup_ids hknown)).2.2 id hid id (List.mem_append_right _ hmem) rfl

lemma Inv.notMem_ordered_of_mem_path (h : Inv known w) (hknown : (ids known).Nodup)
    {id : ModuleId} (hid : id ∈ ids (modulesOf w.path)) : id ∉ ids w.ordered := fun hmem =>
  (List.nodup_append.mp (List.nodup_append.mp (h.nodup_ids hknown)).2.1).2.2 id hid id hmem rfl

/-- A dependency that the bundle has and that is neither to be entered nor on the path is
ordered. -/
lemma Inv.mem_ordered (h : Inv known w) {id : ModuleId} (hknown : id ∈ ids known)
    (hfresh : id ∉ ids (modulesOf w.fresh)) (hpath : id ∉ ids (modulesOf w.path)) :
    id ∈ ids w.ordered := by
  have hmem := (h.parts.map ModuleDescriptor.id).mem_iff.mpr hknown
  simp only [ModuleDescriptor.ids, List.map_append, List.mem_append] at hmem hfresh hpath ⊢
  tauto

/-- Every step keeps the invariant. -/
theorem Next.inv (hs : Next w next) (h : Inv known w) : Inv known next := by
  obtain ⟨parts, fresh, path, closed⟩ := h
  cases hs with
  | root =>
    rename_i v rest ordered
    refine ⟨?_, fun u hu => fresh u (List.mem_cons_of_mem _ hu), ?_, closed⟩
    · exact List.perm_middle.trans parts
    · exact ⟨⟨[], by simp [fresh v List.mem_cons_self], List.nil_subset _⟩, trivial⟩
  | leave =>
    rename_i fresh' module below ordered
    obtain ⟨⟨seen, heq, hseen⟩, hbelow⟩ := path
    refine ⟨?_, fresh, hbelow.leave, ?_⟩
    · exact (List.perm_middle.append_left _).trans parts
    · -- the module that is ordered now has looked at all its dependencies
      intro later d earlier hsplit
      rcases later with _ | ⟨e, later⟩
      · cases hsplit
        simpa [heq] using hseen
      · cases hsplit
        exact closed later d earlier rfl
  | enter hpath htake =>
    rename_i fresh' module id pending below ordered v rest
    obtain ⟨hid, hperm⟩ := takeVisit?_eq_some htake
    obtain ⟨⟨seen, heq, hseen⟩, hbelow⟩ := path
    refine ⟨?_, fun u hu => fresh u (hperm.symm.subset (List.mem_cons_of_mem _ hu)), ?_, closed⟩
    · refine List.Perm.trans ?_ parts
      exact List.perm_middle.trans ((hperm.map (·.module)).symm.append_right _)
    · have hv : v ∈ fresh' := hperm.symm.subset List.mem_cons_self
      refine ⟨⟨[], by simp [fresh v hv], List.nil_subset _⟩, ⟨seen, ?_, hseen⟩, hbelow⟩
      simpa [hid] using heq
  | pass hpath htake =>
    rename_i fresh' module id pending below ordered
    have hknown : id ∈ ids known := path.pending_subset List.mem_cons_self
    have hordered : id ∈ ids ordered :=
      Inv.mem_ordered ⟨parts, fresh, path, closed⟩ hknown (takeVisit?_eq_none htake) hpath
    obtain ⟨⟨seen, heq, hseen⟩, hbelow⟩ := path
    refine ⟨parts, fresh, ⟨⟨seen ++ [id], by simpa using heq, ?_⟩, hbelow⟩, closed⟩
    exact List.append_subset.mpr ⟨hseen, by simpa using hordered⟩

/-- The invariant holds in every configuration that is reached. -/
theorem Reaches.inv (hr : Reaches w next) (h : Inv known w) : Inv known next := by
  induction hr with
  | refl => exact h
  | tail _ hstep ih => exact hstep.inv ih

/-- The invariant holds at the start. -/
theorem inv_start (modules : List ModuleDescriptor) :
    Inv (ModuleDescriptor.lastCopies modules) (start modules) where
  parts := by simp [start, modulesOf, Function.comp_def]
  fresh := by simp [start]
  path := trivial
  closed := by simp [start]

end Walk

end MovePack.Bundle
