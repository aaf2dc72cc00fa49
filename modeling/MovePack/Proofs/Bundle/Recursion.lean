/-
# Ordering by recursion

The order of a bundle can be said by recursion: a module is visited by visiting those of its
dependencies that are in the bundle, in ascending order, and then emitting the module.  A module
that has been emitted is not visited again, and one that is being visited closes a cycle.  The walk
with its path of half finished visits finds the same order, and the same cycle: what is left of the
recursion when the walk has come to a configuration is read off its path, and no step changes what
comes of it in the end.
-/
import MovePack.Proofs.Bundle.Cycle

namespace MovePack.Bundle

open ModuleDescriptor (ids mem_ids lastCopies lastCopy?)
open ModuleId (ascending)

/-! ## The recursion -/

lemma length_filter_notMem_append_lt {modules : List ModuleDescriptor} {path : List ModuleId}
    {id : ModuleId} {d : ModuleDescriptor} (hd : lastCopy? modules id = some d) (hid : id ∉ path) :
    (modules.filter (·.id ∉ path ++ [id])).length < (modules.filter (·.id ∉ path)).length := by
  have hmem : d ∈ modules.filter (·.id ∉ path) := by
    simp [ModuleDescriptor.mem_of_lastCopy? hd, ModuleDescriptor.id_of_lastCopy? hd, hid]
  have hsub : modules.filter (·.id ∉ path ++ [id]) =
      (modules.filter (·.id ∉ path)).filter (·.id ≠ id) := by
    rw [List.filter_filter]
    exact List.filter_congr fun e _ => by simp [and_comm]
  rw [hsub]
  exact List.length_filter_lt_length_iff_exists.mpr
    ⟨d, hmem, by simp [ModuleDescriptor.id_of_lastCopy? hd]⟩

mutual

/-- Visits a module when `path` are the modules being visited, the outermost first, and `emitted`
those already ordered: the modules ordered after the visit. -/
def visit (modules : List ModuleDescriptor) (path : List ModuleId)
    (emitted : List ModuleDescriptor) (id : ModuleId) :
    Except CycleFault (List ModuleDescriptor) :=
  if id ∈ ids emitted then .ok emitted
  else if _path : id ∈ path then .error ⟨path.dropWhile (· ≠ id) ++ [id]⟩
  else
    match _copy : lastCopy? modules id with
    | none => .ok emitted
    | some d => do
      let inside := d.dependencies.filter (· ∈ ids modules)
      let emitted ← visitAll modules (path ++ [id]) emitted (ascending inside)
      return emitted ++ [d]
termination_by ((modules.filter (·.id ∉ path)).length, 0)
decreasing_by exact Prod.Lex.left _ _ (length_filter_notMem_append_lt _copy _path)

/-- Visits modules one after the other. -/
def visitAll (modules : List ModuleDescriptor) (path : List ModuleId)
    (emitted : List ModuleDescriptor) :
    List ModuleId → Except CycleFault (List ModuleDescriptor)
  | [] => .ok emitted
  | id :: rest => do
    let emitted ← visit modules path emitted id
    visitAll modules path emitted rest
termination_by l => ((modules.filter (·.id ∉ path)).length, l.length + 1)
decreasing_by
  · exact Prod.Lex.right _ (by simp)
  · exact Prod.Lex.right _ (by simp)

end

/-- The order of modules, by visiting them all in ascending order. -/
def orderByVisits (modules : List ModuleDescriptor) : Except CycleFault (List ModuleDescriptor) :=
  visitAll modules [] [] (ascending (ids modules))

section Visits

variable {modules emitted : List ModuleDescriptor} {path : List ModuleId} {id : ModuleId}

lemma visit_of_mem_emitted (h : id ∈ ids emitted) :
    visit modules path emitted id = .ok emitted := by
  rw [visit, if_pos h]

lemma visit_of_mem_path (hemitted : id ∉ ids emitted) (h : id ∈ path) :
    visit modules path emitted id = .error ⟨path.dropWhile (· ≠ id) ++ [id]⟩ := by
  rw [visit, if_neg hemitted, dif_pos h]

lemma visit_of_lastCopy? {d : ModuleDescriptor} (hemitted : id ∉ ids emitted) (hpath : id ∉ path)
    (hd : lastCopy? modules id = some d) :
    visit modules path emitted id = (· ++ [d]) <$>
      visitAll modules (path ++ [id]) emitted (d.dependenciesAmong (lastCopies modules)) := by
  rw [visit, if_neg hemitted, dif_neg hpath]
  split
  next hnone => simp [hd] at hnone
  next e he =>
    obtain rfl := Option.some.inj (hd.symm.trans he)
    rw [ModuleDescriptor.dependenciesAmong_lastCopies, map_eq_pure_bind]

lemma visitAll_nil : visitAll modules path emitted [] = .ok emitted := by
  rw [visitAll]

lemma visitAll_cons (rest : List ModuleId) :
    visitAll modules path emitted (id :: rest) =
      visit modules path emitted id >>= fun emitted => visitAll modules path emitted rest := by
  rw [visitAll]

/-- Modules that have been emitted are passed over. -/
lemma visitAll_append_of_subset {skip : List ModuleId} (h : skip ⊆ ids emitted)
    (rest : List ModuleId) :
    visitAll modules path emitted (skip ++ rest) = visitAll modules path emitted rest := by
  induction skip with
  | nil => rfl
  | cons id skip ih =>
    obtain ⟨hid, hskip⟩ := List.cons_subset.mp h
    rw [List.cons_append, visitAll_cons, visit_of_mem_emitted hid]
    exact ih hskip

end Visits

/-! ## What is left of the recursion -/

/-- From a member on, a list without repetitions is the reverse of what comes up to it in the
reversed list. -/
lemma dropWhile_reverse_eq {α : Type} [DecidableEq α] {a : α} {l : List α} (hnodup : l.Nodup)
    (h : a ∈ l) : l.reverse.dropWhile (· ≠ a) = a :: (l.takeWhile (· ≠ a)).reverse := by
  obtain ⟨rest, hrest⟩ := exists_takeWhile_append h
  generalize l.takeWhile (· ≠ a) = front at hrest
  subst hrest
  have hrest : ∀ b ∈ rest.reverse, decide (b ≠ a) = true := by
    intro b hb
    have hne := (List.nodup_cons.mp (List.nodup_append.mp hnodup).2.1).1
    exact decide_eq_true fun hba => hne (hba ▸ List.mem_reverse.mp hb)
  rw [List.reverse_append, List.reverse_cons, List.append_assoc,
    List.dropWhile_append_of_pos hrest, List.singleton_append, List.dropWhile_cons_of_neg (by simp)]

/-- What comes from a module on in a path that is read from its outermost module is the cycle that
the module closes. -/
lemma dropWhile_path_eq_cycleAt {id : ModuleId} {path : List Visit}
    (hnodup : (ids (modulesOf path)).Nodup) (hid : id ∈ ids (modulesOf path)) :
    (ids (modulesOf path)).reverse.dropWhile (· ≠ id) ++ [id] = cycleAt id path := by
  rw [dropWhile_reverse_eq hnodup hid]
  simp [cycleAt, modulesOf, ModuleDescriptor.ids, Function.comp_def]

/-- What is left to do when the visits of a path are half finished, the innermost first: each goes
on with its pending dependencies and emits its module, and in the end the modules that are left as
roots are visited. -/
def resume (modules : List ModuleDescriptor) (roots : List ModuleId) :
    (path : List Visit) → (emitted : List ModuleDescriptor) →
      Except CycleFault (List ModuleDescriptor)
  | [], emitted => visitAll modules [] emitted roots
  | v :: below, emitted => do
    let emitted ← visitAll modules (ids (modulesOf (v :: below))).reverse emitted v.pending
    resume modules roots below (emitted ++ [v.module])

/-- Roots are left such that resuming the configuration gives the result; they include all modules
that have not been entered. -/
def Walk.ResumesTo (modules : List ModuleDescriptor) (w : Walk)
    (result : Except CycleFault (List ModuleDescriptor)) : Prop :=
  ∃ roots : List ModuleId, (ids (modulesOf w.fresh)).Sublist roots ∧ roots.Nodup ∧
    roots ⊆ ids (lastCopies modules) ∧ resume modules roots w.path w.ordered.reverse = result

namespace Walk

variable {modules : List ModuleDescriptor} {w next : Walk}
  {result : Except CycleFault (List ModuleDescriptor)}

/-- A visit that has not been made is one of the last copy of its module. -/
lemma Inv.lastCopy?_of_mem_fresh (h : w.Inv (lastCopies modules)) {v : Visit} (hv : v ∈ w.fresh) :
    lastCopy? modules v.module.id = some v.module := by
  have hmem : v.module ∈ modulesOf w.fresh := List.mem_map_of_mem hv
  exact ModuleDescriptor.mem_lastCopies_iff.mp (h.parts.subset (List.mem_append_left _ hmem))

/-- Going into a module that has not been entered. -/
lemma Inv.visit_of_mem_fresh (h : w.Inv (lastCopies modules)) {v : Visit} (hv : v ∈ w.fresh) :
    visit modules (ids (modulesOf w.path)).reverse w.ordered.reverse v.module.id =
      (· ++ [v.module]) <$>
        visitAll modules (ids (modulesOf (v :: w.path))).reverse w.ordered.reverse v.pending := by
  have hfresh : v.module.id ∈ ids (modulesOf w.fresh) :=
    mem_ids.mpr ⟨v.module, List.mem_map_of_mem hv, rfl⟩
  have hknown := ModuleDescriptor.nodup_ids_lastCopies modules
  have hpath := h.notMem_path_of_mem_fresh hknown hfresh
  have hordered := h.notMem_ordered_of_mem_fresh hknown hfresh
  rw [visit_of_lastCopy? (by simpa using hordered) (by simpa using hpath)
    (h.lastCopy?_of_mem_fresh hv), ← h.fresh v hv]
  simp

/-- No step changes the result. -/
theorem Next.resumesTo (hs : Next w next) (h : w.Inv (lastCopies modules))
    (hw : w.ResumesTo modules result) : next.ResumesTo modules result := by
  obtain ⟨roots, hfresh, hnodup, hknown, hresult⟩ := hw
  cases hs with
  | root =>
    rename_i v rest ordered
    obtain ⟨front, back, rfl, hv, hrest⟩ := List.cons_sublist_iff.mp hfresh
    obtain ⟨skip, middle, rfl⟩ := List.append_of_mem hv
    rw [List.append_assoc, List.cons_append] at hnodup hknown hresult
    obtain ⟨-, hroots, hskip⟩ := List.nodup_append.mp hnodup
    have hrest' : (ids (modulesOf rest)).Sublist (middle ++ back) :=
      hrest.trans (List.sublist_append_right _ _)
    -- a root before the module has been ordered, since it is not to be entered any more
    have hordered : skip ⊆ ids ordered.reverse := by
      intro id hid
      have hnew : id ∉ ids (modulesOf (v :: rest)) := fun hmem =>
        hskip id hid id ((hrest'.cons_cons v.module.id).subset hmem) rfl
      simpa using h.mem_ordered (hknown (List.mem_append_left _ hid)) hnew (by simp)
    refine ⟨middle ++ back, hrest', (List.nodup_cons.mp hroots).2, ?_, ?_⟩
    · exact fun id hid => hknown (List.mem_append_right _ (List.mem_cons_of_mem _ hid))
    · rw [← hresult, resume, visitAll_append_of_subset hordered, visitAll_cons]
      have hvisit := h.visit_of_mem_fresh (v := v) List.mem_cons_self
      simp only [modulesOf_nil, ModuleDescriptor.ids_nil, List.reverse_nil] at hvisit
      rw [hvisit, bind_map_left]
      rfl
  | leave =>
    refine ⟨roots, hfresh, hnodup, hknown, ?_⟩
    rw [← hresult, resume, visitAll_nil, List.reverse_cons]
    rfl
  | enter hpath htake =>
    rename_i fresh module id pending below ordered v rest
    obtain ⟨rfl, hperm⟩ := takeVisit?_eq_some htake
    have hv : v ∈ fresh := hperm.symm.subset List.mem_cons_self
    have hrest : (ids (modulesOf rest)).Sublist (ids (modulesOf fresh)) :=
      ((takeVisit?_sublist htake).map _).map _
    refine ⟨roots, hrest.trans hfresh, hnodup, hknown, ?_⟩
    have hvisit := h.visit_of_mem_fresh hv
    simp only [modulesOf_cons] at hvisit
    simp only [← hresult, resume, modulesOf_cons, visitAll_cons, hvisit, bind_map_left, bind_assoc]
  | pass hpath htake =>
    rename_i fresh module id pending below ordered
    refine ⟨roots, hfresh, hnodup, hknown, ?_⟩
    have hordered : id ∈ ids ordered.reverse := by
      simpa using h.mem_ordered (h.path.pending_subset List.mem_cons_self)
        (takeVisit?_eq_none htake) hpath
    rw [← hresult, resume, resume, visitAll_cons]
    simp only [modulesOf_cons]
    rw [visit_of_mem_emitted hordered]
    rfl

/-- No run changes the result. -/
theorem Reaches.resumesTo (hr : Reaches w next) (h : w.Inv (lastCopies modules))
    (hw : w.ResumesTo modules result) : next.ResumesTo modules result := by
  induction hr with
  | refl => exact hw
  | tail hreach hstep ih => exact hstep.resumesTo (Reaches.inv hreach h) ih

/-- What is resumed at the start is the recursion. -/
theorem start_resumesTo (modules : List ModuleDescriptor) :
    (start modules).ResumesTo modules (orderByVisits modules) := by
  have hids : ids (modulesOf (start modules).fresh) = ids (lastCopies modules) := by
    simp [start, modulesOf, Function.comp_def]
  refine ⟨ids (lastCopies modules), hids ▸ List.Sublist.refl _,
    ModuleDescriptor.nodup_ids_lastCopies modules, List.Subset.refl _, ?_⟩
  rw [orderByVisits, ← ModuleDescriptor.ids_lastCopies]
  rfl

/-- A walk that is done has nothing left to visit. -/
lemma ResumesTo.eq_ok {ordered : List ModuleDescriptor} (hw : w.ResumesTo modules result)
    (h : w.Inv (lastCopies modules)) (hdone : w.step = .done ordered) : result = .ok ordered := by
  obtain ⟨roots, -, -, hknown, rfl⟩ := hw
  rcases w.step_cases with ⟨hfresh, hpath, hstep⟩ | ⟨_, _, hstep⟩ | ⟨_, _, _, _, _, _, hstep⟩ <;>
    rw [hstep] at hdone <;> cases hdone
  have hordered : roots ⊆ ids w.ordered.reverse := by
    intro id hid
    simpa using h.mem_ordered (hknown hid) (by simp [hfresh]) (by simp [hpath])
  rw [hpath, resume, ← List.append_nil roots, visitAll_append_of_subset hordered, visitAll_nil]

/-- A walk that has come upon a module of its path reports the cycle that the visit reports. -/
lemma ResumesTo.eq_error {cycle : List ModuleId} (hw : w.ResumesTo modules result)
    (h : w.Inv (lastCopies modules)) (hstop : w.step = .cycle cycle) : result = .error ⟨cycle⟩ := by
  obtain ⟨roots, -, -, -, rfl⟩ := hw
  rcases w.step_cases with ⟨_, _, hstep⟩ | ⟨_, _, hstep⟩ |
      ⟨module, id, pending, below, hpath, hid, hstep⟩ <;>
    rw [hstep] at hstop <;> cases hstop
  have hknown := ModuleDescriptor.nodup_ids_lastCopies modules
  have hnodup := h.nodup_path hknown
  have hordered : id ∉ ids w.ordered.reverse := by
    simpa using h.notMem_ordered_of_mem_path hknown hid
  have hvisit : visit modules (ids (modulesOf w.path)).reverse w.ordered.reverse id =
      .error ⟨cycleAt id w.path⟩ := by
    rw [visit_of_mem_path hordered (List.mem_reverse.mpr hid), dropWhile_path_eq_cycleAt hnodup hid]
  rw [hpath] at hvisit ⊢
  rw [resume, visitAll_cons, hvisit]
  rfl

end Walk

/-- **Ordering is the recursion.**  The walk returns the order that is found by visiting all modules
in ascending order, or reports the cycle that this comes upon. -/
theorem order_eq_orderByVisits (modules : List ModuleDescriptor) :
    order modules = orderByVisits modules := by
  obtain ⟨last, hreach, hlast⟩ := Walk.exists_reaches_of_run (Walk.start modules)
  have hinv := hreach.inv (Walk.inv_start modules)
  have hresult := hreach.resumesTo (Walk.inv_start modules) (Walk.start_resumesTo modules)
  rcases hlast with ⟨ordered, hdone, hrun⟩ | ⟨cycle, hstop, hrun⟩
  · rw [order, hrun, hresult.eq_ok hinv hdone]
  · rw [order, hrun, hresult.eq_error hinv hstop]

end MovePack.Bundle
