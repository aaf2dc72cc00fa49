/-
# Modules that depend on each other

Modules of a bundle cannot be ordered exactly when some module depends on itself through others.
The cycle that is then reported is one of the dependency graph, and passes through no module twice.
-/
import MovePack.Proofs.Bundle.PublishOrder

namespace MovePack.Bundle

open ModuleDescriptor (ids mem_ids lastCopies lastCopy? DependsOn dependsOn_iff)

/-- A way through the dependencies that ends where it begins and else meets no module twice. -/
structure IsSimpleCycle (modules : List ModuleDescriptor) (cycle : List ModuleId) : Prop where
  /-- The first module is the last one too, and no other comes twice. -/
  closed : ∃ first others, cycle = first :: others ++ [first] ∧ (first :: others).Nodup
  /-- All modules were given. -/
  subset : cycle ⊆ ids modules
  /-- Each module depends on the next one. -/
  linked : cycle.IsChain (DependsOn modules)

/-! ## Ordered modules form no cycle -/

variable {modules ordered : List ModuleDescriptor}

/-- What an ordered module depends on, directly or not, comes before it. -/
lemma IsPublishOrder.mem_of_transGen (h : IsPublishOrder modules ordered) {a b : ModuleId}
    (hab : Relation.TransGen (DependsOn modules) a b) :
    ∀ front d back, ordered = front ++ d :: back → d.id = a → b ∈ ids front := by
  have hstep : ∀ {a b}, DependsOn modules a b →
      ∀ front d back, ordered = front ++ d :: back → d.id = a → b ∈ ids front := by
    rintro a b ⟨e, he, hb, hmem⟩ front d back hsplit rfl
    have hd := h.lastCopy d (by simp [hsplit])
    obtain rfl : e = d := Option.some.inj (he.symm.trans hd)
    exact h.before front e back hsplit b hb hmem
  induction hab using Relation.TransGen.head_induction_on with
  | single hab => exact hstep hab
  | head hac _ ih =>
    -- the first step leads to an earlier module, and the others from there to still earlier ones
    intro front d back hsplit hid
    obtain ⟨c, hc, hcid⟩ := mem_ids.mp (hstep hac front d back hsplit hid)
    obtain ⟨front', back', rfl⟩ := List.append_of_mem hc
    have hfront' := ih front' c (back' ++ d :: back) (by simp [hsplit]) hcid
    simp [hfront']

lemma IsPublishOrder.not_transGen_self (h : IsPublishOrder modules ordered) (a : ModuleId) :
    ¬ Relation.TransGen (DependsOn modules) a a := by
  intro haa
  obtain ⟨c, ⟨d, hd, -⟩, -⟩ := Relation.TransGen.head'_iff.mp haa
  have hmem : a ∈ ids modules :=
    mem_ids.mpr ⟨d, ModuleDescriptor.mem_of_lastCopy? hd, ModuleDescriptor.id_of_lastCopy? hd⟩
  obtain ⟨e, he, rfl⟩ := mem_ids.mp ((h.mem_ids_iff a).mpr hmem)
  obtain ⟨front, back, hsplit⟩ := List.append_of_mem he
  have hfront := h.mem_of_transGen haa front e back hsplit rfl
  have hnodup := h.nodup
  rw [hsplit, ModuleDescriptor.ids_append, ModuleDescriptor.ids_cons] at hnodup
  exact (List.nodup_append.mp hnodup).2.2 _ hfront _ List.mem_cons_self rfl

/-! ## The reported cycle -/

/-- Along the path, each module was entered from one that depends on it. -/
lemma Walk.PathFrom.isChain {known : List ModuleDescriptor} {inner? : Option ModuleId}
    {path : List Visit} (h : Walk.PathFrom known ordered inner? path)
    (hknown : modulesOf path ⊆ known) :
    (inner?.toList ++ ids (modulesOf path)).IsChain
      fun b a => ∃ d ∈ known, d.id = a ∧ b ∈ d.dependenciesAmong known := by
  induction path generalizing inner? with
  | nil => cases inner? <;> simp
  | cons v below ih =>
    obtain ⟨⟨seen, heq, -⟩, hbelow⟩ := h
    have hv : v.module ∈ known := hknown List.mem_cons_self
    have htail := ih hbelow fun d hd => hknown (List.mem_cons_of_mem _ hd)
    cases inner? with
    | none => exact htail
    | some inner => exact htail.cons_cons ⟨v.module, hv, rfl, by simp [heq]⟩

/-- The path leads through the dependencies inside the bundle. -/
lemma Walk.Inv.isChain_path {w : Walk} (h : w.Inv (lastCopies modules)) :
    (ids (modulesOf w.path)).IsChain fun b a => DependsOn modules a b := by
  have hsub : modulesOf w.path ⊆ lastCopies modules := fun d hd =>
    h.parts.subset (List.mem_append_right _ (List.mem_append_left _ hd))
  have hlinks := h.path.isChain hsub
  simpa only [Option.toList_none, List.nil_append, ← dependsOn_iff] using hlinks

/-- The part of the path up to a module that is on it. -/
lemma exists_takeWhile_append {α : Type} [DecidableEq α] {a : α} {l : List α} (h : a ∈ l) :
    ∃ rest, l = l.takeWhile (· ≠ a) ++ a :: rest := by
  induction l with
  | nil => simp at h
  | cons b l ih =>
    by_cases hb : b = a
    · exact ⟨l, by simp [hb]⟩
    · obtain ⟨rest, hrest⟩ := ih (List.mem_of_ne_of_mem (Ne.symm hb) h)
      refine ⟨rest, ?_⟩
      rw [List.takeWhile_cons_of_pos (by simpa using hb), List.cons_append, ← hrest]

/-- A walk that stops at a module on its path has found a cycle. -/
theorem Walk.Inv.isSimpleCycle {w : Walk} (h : w.Inv (lastCopies modules)) {cycle : List ModuleId}
    (hstop : w.step = .cycle cycle) : IsSimpleCycle modules cycle := by
  rcases w.step_cases with ⟨_, _, hstep⟩ | ⟨_, _, hstep⟩ |
      ⟨module, id, pending, below, hpath, hid, hstep⟩ <;>
    rw [hstep] at hstop <;> cases hstop
  have hsub : modulesOf w.path ⊆ lastCopies modules := fun d hd =>
    h.parts.subset (List.mem_append_right _ (List.mem_append_left _ hd))
  have hnodup := h.nodup_path (ModuleDescriptor.nodup_ids_lastCopies modules)
  -- the module at the end of the path depends on `id`, so `id` can be put in front of the path
  have hchain : (id :: ids (modulesOf w.path)).IsChain fun b a => DependsOn modules a b := by
    have hlinks := h.isChain_path
    rw [hpath] at hlinks ⊢
    obtain ⟨⟨seen, heq, -⟩, -⟩ := hpath ▸ h.path
    exact hlinks.cons_cons (dependsOn_iff.mpr
      ⟨module, hsub (by simp [hpath]), rfl, by simp [heq]⟩)
  obtain ⟨rest, hrest⟩ := exists_takeWhile_append hid
  have hcycle : cycleAt id w.path =
      (id :: (ids (modulesOf w.path)).takeWhile (· ≠ id) ++ [id]).reverse := by
    simp [cycleAt, modulesOf, ModuleDescriptor.ids, Function.comp_def]
  generalize (ids (modulesOf w.path)).takeWhile (· ≠ id) = inner at hrest hcycle
  have hprefix : id :: inner ++ [id] <+: id :: ids (modulesOf w.path) := ⟨rest, by simp [hrest]⟩
  rw [hcycle]
  refine ⟨⟨id, inner.reverse, by simp, ?_⟩, ?_, ?_⟩
  · rw [hrest] at hnodup
    have hcut : (inner ++ [id]).Nodup :=
      hnodup.sublist (List.Sublist.append_left (by simp) _)
    obtain ⟨hinner, -, hne⟩ := List.nodup_append.mp hcut
    exact List.nodup_cons.mpr ⟨fun hmem => hne id (List.mem_reverse.mp hmem) id (by simp) rfl,
      ((List.reverse_perm inner).nodup_iff).mpr hinner⟩
  · intro m hm
    have hpathm : m ∈ ids (modulesOf w.path) := by
      have := hprefix.subset (List.mem_reverse.mp hm)
      rcases List.mem_cons.mp this with rfl | hmem
      · exact hid
      · exact hmem
    obtain ⟨d, hd, rfl⟩ := mem_ids.mp hpathm
    exact ModuleDescriptor.mem_ids_lastCopies_iff.mp (mem_ids.mpr ⟨d, hsub hd, rfl⟩)
  · rw [List.isChain_reverse]
    exact hchain.prefix hprefix

lemma isSimpleCycle_of_order_eq_error {f : CycleFault} (h : order modules = .error f) :
    IsSimpleCycle modules f.cycle := by
  obtain ⟨last, hreach, ⟨found, _, hrun⟩ | ⟨cycle, hstop, hrun⟩⟩ :=
    Walk.exists_reaches_of_run (Walk.start modules)
  · rw [order, hrun] at h
    cases h
  · rw [order, hrun] at h
    cases h
    exact (hreach.inv (Walk.inv_start modules)).isSimpleCycle hstop

/-! ## When there is no order -/

lemma IsSimpleCycle.transGen {cycle : List ModuleId} (h : IsSimpleCycle modules cycle) :
    ∃ a, Relation.TransGen (DependsOn modules) a a := by
  obtain ⟨⟨first, others, rfl, -⟩, -, hlinked⟩ := h
  cases others with
  | nil => exact ⟨first, .single (List.isChain_pair.mp hlinked)⟩
  | cons second others =>
    obtain ⟨hfirst, hrest⟩ := List.isChain_cons_cons.mp hlinked
    have hback : Relation.ReflTransGen (DependsOn modules) second first :=
      List.relationReflTransGen_of_exists_isChain_cons (others ++ [first]) hrest (by simp)
    exact ⟨first, .head' hfirst hback⟩

lemma exists_order_eq_error_iff :
    (∃ f, order modules = .error f) ↔ ∃ a, Relation.TransGen (DependsOn modules) a a := by
  refine ⟨fun ⟨f, hf⟩ => (isSimpleCycle_of_order_eq_error hf).transGen, ?_⟩
  rintro ⟨a, ha⟩
  cases h : order modules with
  | error f => exact ⟨f, rfl⟩
  | ok ordered => exact absurd ha ((isPublishOrder_of_order_eq_ok h).not_transGen_self a)

/-- **The check for cycles is exact.**  Modules have no order exactly when the dependencies among
them contain a directed cycle, and what is reported are the texts of the modules along one that
passes through no module twice. -/
theorem order_fails_iff_cyclic (modules : List ModuleDescriptor) :
    ((∃ f, order modules = .error f) ↔ ∃ a, Relation.TransGen (DependsOn modules) a a) ∧
      ∀ f, order modules = .error f →
        ∃ cycle, IsSimpleCycle modules cycle ∧ f.names = cycle.map ModuleId.toText :=
  ⟨exists_order_eq_error_iff, fun f hf => ⟨f.cycle, isSimpleCycle_of_order_eq_error hf, rfl⟩⟩

/-- Two modules that depend on each other. -/
theorem order_fails_of_mutual :
    order [⟨atOrigin "a", [atOrigin "b"], [1]⟩, ⟨atOrigin "b", [atOrigin "a"], [2]⟩] =
      .error ⟨[atOrigin "a", atOrigin "b", atOrigin "a"]⟩ ∧
    ∃ cycle, IsSimpleCycle
        [⟨atOrigin "a", [atOrigin "b"], [1]⟩, ⟨atOrigin "b", [atOrigin "a"], [2]⟩] cycle ∧
      CycleFault.names ⟨[atOrigin "a", atOrigin "b", atOrigin "a"]⟩ =
        cycle.map ModuleId.toText := by
  have h : order [⟨atOrigin "a", [atOrigin "b"], [1]⟩, ⟨atOrigin "b", [atOrigin "a"], [2]⟩] =
      .error ⟨[atOrigin "a", atOrigin "b", atOrigin "a"]⟩ := by cbv
  exact ⟨h, (order_fails_iff_cyclic _).2 _ h⟩

end MovePack.Bundle
