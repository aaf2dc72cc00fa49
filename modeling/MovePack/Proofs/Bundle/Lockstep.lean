/-
# The search beside the walk

The search over two stacks stands at every moment where the walk over the modules stands: its stacks
are the path of the walk with what is pending there, the modules it has emitted are the ordered
ones, and the modules to be entered are among the roots that are left.  Each of its steps is one of
the walk, or passes over a root that has been emitted, so that in the end it has found the same
order or the same cycle, and nothing else has stopped it.
-/
import MovePack.Proofs.Bundle.Search

namespace MovePack.Bundle

open ModuleDescriptor (ids mem_ids lastCopies lastCopy?)

variable {modules : List ModuleDescriptor}

namespace Search

/-! ## The search and the walk -/

/-- The search stands where a walk does. -/
structure Matches (modules : List ModuleDescriptor) (s : Search) (w : Walk) : Prop where
  /-- The modules being visited are the path. -/
  visiting : s.visiting = (ids (modulesOf w.path)).reverse
  /-- So is what they have not looked at. -/
  pending : s.pending = (w.path.map (·.pending)).reverse
  /-- The emitted modules are the ordered ones. -/
  emitted : s.emitted = (ids w.ordered).toFinset
  /-- The order is the same. -/
  order : s.order = w.ordered.reverse
  /-- The modules to be entered are among the roots that are left. -/
  fresh : (ids (modulesOf w.fresh)).Sublist s.roots
  /-- No root is left twice. -/
  nodup_roots : s.roots.Nodup
  /-- All roots are in the bundle. -/
  roots_subset : s.roots ⊆ ids modules
  /-- The modules that have been entered are being visited or ordered. -/
  entered : s.entered.Perm (s.visiting ++ ids s.order)

variable {s next : Search} {w : Walk}

/-- At the start nothing has been entered. -/
lemma matches_start (modules : List ModuleDescriptor) :
    Matches modules (start modules) (Walk.start modules) where
  visiting := rfl
  pending := rfl
  emitted := rfl
  order := rfl
  fresh := by
    rw [start, ← ModuleDescriptor.ids_lastCopies]
    simp [Walk.start, modulesOf, Function.comp_def]
  nodup_roots := ModuleId.nodup_ascending _
  roots_subset := fun _ => ModuleId.mem_ascending.mp
  entered := .nil

/-- The search can enter a module that the walk has not entered, and finds its dependencies. -/
lemma enter_of_mem_fresh (hw : w.Inv (lastCopies modules)) {v : Visit} (hv : v ∈ w.fresh)
    (hvisiting : v.module.id ∉ s.visiting) :
    enter modules v.module.id s = .ok { s with
      visiting := s.visiting ++ [v.module.id]
      pending := s.pending ++ [v.pending]
      entered := s.entered ++ [v.module.id] } := by
  have hcopy := hw.lastCopy?_of_mem_fresh hv
  rw [enter_of_lastCopy? hvisiting hcopy, entering, hw.fresh v hv,
    ModuleDescriptor.dependenciesAmong_eq_dependenciesInside
      (ModuleDescriptor.mem_lastCopies_iff.mpr hcopy)]

/-! ### Steps of the search -/

lemma next?_of_roots_nil (hvisiting : s.visiting = []) (hroots : s.roots = []) :
    next? modules s = none := by
  simp [next?, hvisiting, hroots]

lemma next?_of_roots_cons {root : ModuleId} {rest : List ModuleId} (hvisiting : s.visiting = [])
    (hroots : s.roots = root :: rest) :
    next? modules s = some (if root ∈ s.emitted then .ok { s with roots := rest }
      else enter modules root { s with roots := rest }) := by
  rw [next?, if_neg (not_not.mpr hvisiting)]
  simp only [hroots]
  split_ifs <;> rfl

lemma next?_of_pending_nil {id : ModuleId} {d : ModuleDescriptor} {visiting : List ModuleId}
    {pending : List (List ModuleId)} (hvisiting : s.visiting = visiting ++ [id])
    (hpending : s.pending = pending ++ [[]]) (hd : lastCopy? modules id = some d) :
    next? modules s = some (.ok { s with
      visiting, pending, emitted := insert id s.emitted, order := s.order ++ [d],
      turns := s.turns + 1 }) := by
  simp [next?, turn, lookUp_eq_ok_iff.mpr hd, hvisiting, hpending]

lemma next?_of_pending_cons {inner id : ModuleId} {visiting rest : List ModuleId}
    {pending : List (List ModuleId)} (hvisiting : s.visiting = visiting ++ [inner])
    (hpending : s.pending = pending ++ [id :: rest]) :
    next? modules s = some (
      let s := { s with pending := pending ++ [rest], turns := s.turns + 1 }
      if id ∈ s.emitted then .ok s else enter modules id s) := by
  simp [next?, turn, hvisiting, hpending]

/-! ### Steps that match -/

section Steps

variable {fresh rest below : List Visit} {ordered : List ModuleDescriptor}
  {module : ModuleDescriptor} {v : Visit}

/-- The next root is taken off the others; the modules to be entered are among those that are
left. -/
lemma Matches.dropRoot (hm : Matches modules s w) {root : ModuleId} {roots : List ModuleId}
    (hroots : s.roots = root :: roots) (hfresh : (ids (modulesOf rest)).Sublist roots) :
    Matches modules { s with roots := roots } { w with fresh := rest } := by
  obtain ⟨hvisiting, hpending, hemitted, horder, -, hnodup, hsubset, hentered⟩ := hm
  rw [hroots] at hnodup hsubset
  exact ⟨hvisiting, hpending, hemitted, horder, hfresh, (List.nodup_cons.mp hnodup).2,
    (List.cons_subset.mp hsubset).2, hentered⟩

/-- A module is put on both stacks with its dependencies. -/
lemma Matches.push (hm : Matches modules s w) :
    Matches modules { s with
      visiting := s.visiting ++ [v.module.id]
      pending := s.pending ++ [v.pending]
      entered := s.entered ++ [v.module.id] } { w with path := v :: w.path } where
  visiting := by simp [hm.visiting]
  pending := by simp [hm.pending]
  emitted := hm.emitted
  order := hm.order
  fresh := hm.fresh
  nodup_roots := hm.nodup_roots
  roots_subset := hm.roots_subset
  entered := by
    refine (hm.entered.append_right _).trans ?_
    simp only [List.append_assoc]
    exact List.perm_append_comm.append_left _

/-- A dependency is taken off the upper stack, and off the modules to be entered if it is among
them. -/
lemma Matches.look {id : ModuleId} {pending : List ModuleId}
    (hm : Matches modules s ⟨fresh, ⟨module, id :: pending⟩ :: below, ordered⟩)
    (hrest : rest.Sublist fresh) :
    Matches modules
      { s with pending := (below.map (·.pending)).reverse ++ [pending], turns := s.turns + 1 }
      ⟨rest, ⟨module, pending⟩ :: below, ordered⟩ :=
  { hm with pending := by simp, fresh := ((hrest.map _).map _).trans hm.fresh }

/-- What the search does where a dependency is to be looked at. -/
lemma Matches.next?_eq {id : ModuleId} {pending : List ModuleId} (hm : Matches modules s w)
    (hpath : w.path = ⟨module, id :: pending⟩ :: below) :
    next? modules s = some (
      let s := { s with
        pending := (below.map (·.pending)).reverse ++ [pending], turns := s.turns + 1 }
      if id ∈ s.emitted then .ok s else enter modules id s) := by
  have hvisiting : s.visiting = (ids (modulesOf below)).reverse ++ [module.id] := by
    simp [hm.visiting, hpath]
  have hpending : s.pending = (below.map (·.pending)).reverse ++ [id :: pending] := by
    simp [hm.pending, hpath]
  exact next?_of_pending_cons hvisiting hpending

/-- The innermost module is emitted. -/
lemma Matches.leave
    (hm : Matches modules s ⟨fresh, ⟨module, []⟩ :: below, ordered⟩) :
    Matches modules { s with
      visiting := (ids (modulesOf below)).reverse
      pending := (below.map (·.pending)).reverse
      emitted := insert module.id s.emitted
      order := s.order ++ [module]
      turns := s.turns + 1 } ⟨fresh, below, module :: ordered⟩ where
  visiting := rfl
  pending := rfl
  emitted := by simp [hm.emitted]
  order := by simp [hm.order]
  fresh := hm.fresh
  nodup_roots := hm.nodup_roots
  roots_subset := hm.roots_subset
  entered := by
    refine hm.entered.trans ?_
    simp only [hm.visiting, modulesOf_cons, ModuleDescriptor.ids_cons, List.reverse_cons,
      ModuleDescriptor.ids_append, ModuleDescriptor.ids_nil, List.append_assoc]
    exact List.perm_append_comm.append_left _

end Steps

/-- What follows in the search is what a step of the walk leads to, or a root that is passed
over. -/
inductive Follows (modules : List ModuleDescriptor) (s : Search) (w : Walk) :
    Option (Except Stop Search) → Prop
  /-- Both are done, with the same order. -/
  | done (hdone : w.step = .done s.order) : Follows modules s w none
  /-- The search passes over a root. -/
  | skip {next : Search} (hm : Matches modules next w) : Follows modules s w (some (.ok next))
  /-- Both take a step. -/
  | step {next : Search} {w' : Walk} (hstep : w.step = .next w') (hnext : w.Next w')
      (hm : Matches modules next w') : Follows modules s w (some (.ok next))
  /-- Both come upon the same cycle. -/
  | cycle {cycle : List ModuleId} (hcycle : w.step = .cycle cycle) :
    Follows modules s w (some (.error (.cycle ⟨cycle⟩)))

/-- What the search has emitted the walk has ordered. -/
lemma Matches.mem_emitted_iff (hm : Matches modules s w) {id : ModuleId} :
    id ∈ s.emitted ↔ id ∈ ids w.ordered := by
  simp [hm.emitted]

/-- A root that has not been emitted is the first module to be entered. -/
lemma Matches.exists_fresh_eq (hm : Matches modules s w) (hw : w.Inv (lastCopies modules))
    {root : ModuleId} {roots : List ModuleId} (hpath : w.path = [])
    (hroots : s.roots = root :: roots) (hroot : root ∉ s.emitted) :
    ∃ v rest, w.fresh = v :: rest ∧ v.module.id = root ∧ (ids (modulesOf rest)).Sublist roots := by
  have hfresh := hm.fresh
  have hknown : root ∈ ids (lastCopies modules) :=
    ModuleDescriptor.mem_ids_lastCopies_iff.mpr (hm.roots_subset (by simp [hroots]))
  have hmem : root ∈ ids (modulesOf w.fresh) := by
    by_contra hnew
    exact hroot (hm.mem_emitted_iff.mpr (hw.mem_ordered hknown hnew (by simp [hpath])))
  have hnodup := hm.nodup_roots
  rw [hroots] at hfresh hnodup
  obtain hsub | ⟨rest, hrest, hsub⟩ := List.sublist_cons_iff.mp hfresh
  · exact absurd (hsub.subset hmem) (List.nodup_cons.mp hnodup).1
  · rcases hwf : w.fresh with _ | ⟨v, others⟩ <;> rw [hwf] at hrest <;> cases hrest
    exact ⟨v, others, rfl, rfl, hsub⟩

/-- The search passes over a root that has been emitted. -/
lemma Matches.follows_of_skip (hm : Matches modules s w) (hw : w.Inv (lastCopies modules))
    {root : ModuleId} {roots : List ModuleId} (hpath : w.path = [])
    (hroots : s.roots = root :: roots) (hroot : root ∈ s.emitted) :
    Follows modules s w (next? modules s) := by
  have hnew : root ∉ ids (modulesOf w.fresh) := fun hmem =>
    hw.notMem_ordered_of_mem_fresh (ModuleDescriptor.nodup_ids_lastCopies modules) hmem
      (hm.mem_emitted_iff.mp hroot)
  have hfresh := hm.fresh
  rw [hroots] at hfresh
  have hsub : (ids (modulesOf w.fresh)).Sublist roots :=
    (List.sublist_cons_iff.mp hfresh).resolve_right fun ⟨_, heq, _⟩ => hnew (by simp [heq])
  rw [next?_of_roots_cons (by simp [hm.visiting, hpath]) hroots, if_pos hroot]
  exact .skip (hm.dropRoot hroots hsub)

/-- **The search follows the walk.** -/
theorem Matches.follows (hm : Matches modules s w) (hw : w.Inv (lastCopies modules)) :
    Follows modules s w (next? modules s) := by
  by_cases hskip : ∃ root roots, w.path = [] ∧ s.roots = root :: roots ∧ root ∈ s.emitted
  · obtain ⟨root, roots, hpath, hroots, hroot⟩ := hskip
    exact hm.follows_of_skip hw hpath hroots hroot
  have hknown := ModuleDescriptor.nodup_ids_lastCopies modules
  rcases w.step_cases with ⟨hfresh, hpath, hstep⟩ | ⟨w', hnext, hstep⟩ |
    ⟨module, id, pending, below, hpath, hid, hstep⟩
  · have hroots : s.roots = [] := by
      rcases hroots : s.roots with _ | ⟨root, roots⟩
      · rfl
      · have hroot : root ∉ s.emitted := fun h => hskip ⟨root, roots, hpath, hroots, h⟩
        obtain ⟨v, rest, hv, -, -⟩ := hm.exists_fresh_eq hw hpath hroots hroot
        simp [hfresh] at hv
    rw [next?_of_roots_nil (by simp [hm.visiting, hpath]) hroots]
    exact .done (by rw [hstep, hm.order])
  · cases hnext with
    | root =>
      rename_i v rest ordered
      obtain ⟨root, roots, hroots⟩ : ∃ root roots, s.roots = root :: roots := by
        rcases hroots : s.roots with _ | ⟨root, roots⟩
        · simpa [hroots] using hm.fresh
        · exact ⟨root, roots, rfl⟩
      have hroot : root ∉ s.emitted := fun h => hskip ⟨root, roots, rfl, hroots, h⟩
      obtain ⟨_, _, hfresh, rfl, hsub⟩ := hm.exists_fresh_eq hw rfl hroots hroot
      cases hfresh
      rw [next?_of_roots_cons (by simp [hm.visiting]) hroots, if_neg hroot,
        enter_of_mem_fresh hw List.mem_cons_self (by simp [hm.visiting])]
      exact .step hstep .root (hm.dropRoot hroots hsub).push
    | leave =>
      rename_i fresh module below ordered
      have hmem : module ∈ lastCopies modules := hw.parts.subset (by simp)
      have hvisiting : s.visiting = (ids (modulesOf below)).reverse ++ [module.id] := by
        simp [hm.visiting]
      have hpending : s.pending = (below.map (·.pending)).reverse ++ [[]] := by simp [hm.pending]
      rw [next?_of_pending_nil hvisiting hpending (ModuleDescriptor.mem_lastCopies_iff.mp hmem)]
      exact .step hstep .leave hm.leave
    | enter hpath htake =>
      rename_i fresh module id pending below ordered v rest
      obtain ⟨rfl, hperm⟩ := takeVisit?_eq_some htake
      have hv : v ∈ fresh := hperm.symm.subset List.mem_cons_self
      have hfresh : v.module.id ∈ ids (modulesOf fresh) :=
        mem_ids.mpr ⟨_, List.mem_map_of_mem hv, rfl⟩
      have hemitted : v.module.id ∉ s.emitted :=
        mt hm.mem_emitted_iff.mp (hw.notMem_ordered_of_mem_fresh hknown hfresh)
      rw [hm.next?_eq rfl]
      simp only [if_neg hemitted]
      rw [enter_of_mem_fresh hw hv (by simpa [hm.visiting, and_comm] using hpath)]
      exact .step hstep (.enter hpath htake) (hm.look (takeVisit?_sublist htake)).push
    | pass hpath htake =>
      rename_i fresh module id pending below ordered
      have hordered :=
        hw.mem_ordered (hw.path.pending_subset List.mem_cons_self) (takeVisit?_eq_none htake) hpath
      rw [hm.next?_eq rfl]
      simp only [if_pos (hm.mem_emitted_iff.mpr hordered)]
      exact .step hstep (.pass hpath htake) (hm.look (List.Sublist.refl _))
  · have hemitted : id ∉ s.emitted :=
      mt hm.mem_emitted_iff.mp (hw.notMem_ordered_of_mem_path hknown hid)
    rw [hm.next?_eq hpath]
    simp only [if_neg hemitted]
    rw [enter_of_mem_visiting (by simpa [hm.visiting] using hid), hm.visiting,
      dropWhile_path_eq_cycleAt (hw.nodup_path hknown) hid]
    exact .cycle hstep

/-- The search ends as the walk does. -/
theorem Matches.run_eq (hm : Matches modules s w) (hw : w.Inv (lastCopies modules)) :
    run modules s = w.run.mapError .cycle := by
  have hfollows := hm.follows hw
  fun_induction run modules s generalizing w with
  | case1 s hnone =>
    rw [hnone] at hfollows
    cases hfollows with
    | done hdone =>
      rw [Walk.run_of_done hdone]
      rfl
  | case2 s stop hstop =>
    rw [hstop] at hfollows
    cases hfollows with
    | cycle hcycle =>
      rw [Walk.run_of_cycle hcycle]
      rfl
  | case3 s next hnext ih =>
    rw [hnext] at hfollows
    cases hfollows with
    | skip hm' => exact ih hm' hw (hm'.follows hw)
    | step hstep hwalk hm' =>
      rw [Walk.run_of_next hstep]
      exact ih hm' (hwalk.inv hw) (hm'.follows (hwalk.inv hw))

/-- The search stands where a walk over the modules stands. -/
lemma Reaches.exists_matches (h : Reaches modules (start modules) s) :
    ∃ w, w.Inv (lastCopies modules) ∧ Matches modules s w := by
  induction h with
  | refl => exact ⟨_, Walk.inv_start modules, matches_start modules⟩
  | tail _ hnext ih =>
    obtain ⟨w, hw, hm⟩ := ih
    have hfollows := hm.follows hw
    rw [hnext] at hfollows
    cases hfollows with
    | skip hm' => exact ⟨w, hw, hm'⟩
    | step _ hwalk hm' => exact ⟨_, hwalk.inv hw, hm'⟩

/-- **The search finds the order.** -/
theorem run_start (modules : List ModuleDescriptor) :
    run modules (start modules) = (Bundle.order modules).mapError .cycle :=
  (matches_start modules).run_eq (Walk.inv_start modules)

end Search

end MovePack.Bundle
