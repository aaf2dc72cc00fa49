/-
# What the stacks of the search hold

The search over two stacks keeps an invariant.  The lower stack is a path through the dependencies
inside the bundle that meets no module twice.  The upper stack has, for each module of the path, the
dependencies that the module has still to look at; of those that it has looked at, the last one may
be the next module of the path, and all others have been emitted.  What has been emitted is closed
under dependencies.  No module is entered twice, and so the search ends after at most as many turns
as there are modules and dependencies inside the bundle, also where it comes upon a cycle.
-/
import MovePack.Proofs.Bundle.Lockstep

namespace MovePack.Bundle

open ModuleDescriptor (ids mem_ids lastCopies DependsOn dependenciesInside edges)

variable {modules : List ModuleDescriptor}

namespace Walk

variable {known ordered : List ModuleDescriptor} {w : Walk}

/-- What a module of the path has looked at has been ordered, but for the module that was entered
from it. -/
lemma PathFrom.exists_seen {inner? : Option ModuleId} {front back : List Visit} {v : Visit}
    (h : PathFrom known ordered inner? (front ++ v :: back)) :
    ∃ seen, v.module.dependenciesAmong known =
        seen ++ ((ids (modulesOf front)).getLast?.or inner?).toList ++ v.pending ∧
      seen ⊆ ids ordered := by
  induction front generalizing inner? with
  | nil => simpa using h.1
  | cons u front ih =>
    obtain ⟨seen, heq, hseen⟩ := ih h.2
    refine ⟨seen, ?_, hseen⟩
    rw [heq, modulesOf_cons, ModuleDescriptor.ids_cons, List.getLast?_cons]
    cases (ids (modulesOf front)).getLast? <;> rfl

/-- What an ordered module depends on inside the bundle is ordered, too. -/
lemma Inv.mem_ordered_of_dependsOn (h : w.Inv (lastCopies modules)) {a b : ModuleId}
    (ha : a ∈ ids w.ordered) (hab : DependsOn modules a b) : b ∈ ids w.ordered := by
  obtain ⟨d, hd, rfl⟩ := mem_ids.mp ha
  have hcopy : d ∈ lastCopies modules := h.parts.subset (by simp [hd])
  obtain ⟨later, earlier, hsplit⟩ := List.append_of_mem hd
  have hb : b ∈ d.dependenciesAmong (lastCopies modules) := by
    rw [ModuleDescriptor.dependenciesAmong_eq_dependenciesInside hcopy]
    exact ModuleDescriptor.mem_dependenciesInside.mpr hab
  have hearlier := h.closed later d earlier hsplit hb
  rw [hsplit]
  simp [hearlier]

end Walk

namespace Search

variable {s : Search} {w : Walk}

/-- What holds at every moment of a search. -/
structure Inv (modules : List ModuleDescriptor) (s : Search) : Prop where
  /-- No module is being visited twice. -/
  nodup_visiting : s.visiting.Nodup
  /-- Each module that is visited within another is a dependency of that one inside the bundle. -/
  path : s.visiting.IsChain (DependsOn modules)
  /-- Both stacks have the same height. -/
  length_pending : s.pending.length = s.visiting.length
  /-- The dependencies of a module being visited are, in ascending order, those that it has looked at
  and that have been emitted, the one that is visited within it, and those it has not looked at. -/
  looked : ∀ (i : Nat) (id : ModuleId) (left : List ModuleId),
    s.visiting[i]? = some id → s.pending[i]? = some left →
      ∃ looked, dependenciesInside modules id = looked ++ s.visiting[i + 1]?.toList ++ left ∧
        ∀ d ∈ looked, d ∈ s.emitted
  /-- The emitted modules are those in the order. -/
  emitted : s.emitted = (ids s.order).toFinset
  /-- No module that is being visited has been emitted. -/
  disjoint : ∀ id ∈ s.visiting, id ∉ s.emitted
  /-- What an emitted module depends on inside the bundle has been emitted. -/
  closed : ∀ a ∈ s.emitted, ∀ b, DependsOn modules a b → b ∈ s.emitted
  /-- The modules that have been entered are being visited or have been put into the order. -/
  entered : s.entered.Perm (s.visiting ++ ids s.order)
  /-- No module has been entered twice. -/
  nodup_entered : s.entered.Nodup
  /-- All modules that have been entered are in the bundle. -/
  entered_subset : s.entered ⊆ ids modules

lemma exists_eq_append_of_getElem?_eq_some {α : Type} {l : List α} {i : Nat} {a : α}
    (h : l[i]? = some a) : ∃ front back, l = front ++ a :: back ∧ front.length = i := by
  obtain ⟨hi, rfl⟩ := List.getElem?_eq_some_iff.mp h
  refine ⟨l.take i, l.drop (i + 1), ?_, List.length_take_of_le (Nat.le_of_lt hi)⟩
  rw [← List.drop_eq_getElem_cons hi, List.take_append_drop]

/-- What the modules being visited have looked at. -/
lemma Matches.looked (hm : Matches modules s w) (hw : w.Inv (lastCopies modules)) {i : Nat}
    {id : ModuleId} {left : List ModuleId} (hid : s.visiting[i]? = some id)
    (hleft : s.pending[i]? = some left) :
    ∃ looked, dependenciesInside modules id = looked ++ s.visiting[i + 1]?.toList ++ left ∧
      ∀ d ∈ looked, d ∈ s.emitted := by
  have hvisiting : s.visiting = w.path.reverse.map (·.module.id) := by
    simp [hm.visiting, modulesOf, ids]
  have hpending : s.pending = w.path.reverse.map (·.pending) := by simp [hm.pending]
  rw [hvisiting, List.getElem?_map, Option.map_eq_some_iff] at hid
  obtain ⟨v, hv, rfl⟩ := hid
  rw [hpending, List.getElem?_map, hv, Option.map_some, Option.some.injEq] at hleft
  obtain ⟨outer, inner, hsplit, rfl⟩ := exists_eq_append_of_getElem?_eq_some hv
  have hpath : w.path = inner.reverse ++ v :: outer.reverse := by
    rw [List.reverse_eq_iff.mp hsplit]
    simp
  obtain ⟨seen, heq, hseen⟩ := (hpath ▸ hw.path).exists_seen
  have hcopy : v.module ∈ lastCopies modules := hw.parts.subset (by simp [hpath, modulesOf])
  have hnext : s.visiting[outer.length + 1]? = (ids (modulesOf inner.reverse)).getLast? := by
    rw [hvisiting, hsplit, List.getElem?_map, List.getElem?_append_right (Nat.le_succ _)]
    simp [modulesOf, ids, Function.comp_def, List.head?_eq_getElem?]
  refine ⟨seen, ?_, fun d hd => ?_⟩
  · rw [← ModuleDescriptor.dependenciesAmong_eq_dependenciesInside hcopy, heq, hnext, hleft]
    simp
  · simpa [hm.emitted] using hseen hd

/-- The invariant of the walk, read off the stacks. -/
theorem Matches.inv (hm : Matches modules s w) (hw : w.Inv (lastCopies modules)) :
    s.Inv modules := by
  have hknown := ModuleDescriptor.nodup_ids_lastCopies modules
  have hentered : s.entered.Perm (ids (modulesOf w.path) ++ ids w.ordered) := by
    refine hm.entered.trans ?_
    rw [hm.visiting, hm.order, ModuleDescriptor.ids_reverse]
    exact (List.reverse_perm _).append (List.reverse_perm _)
  exact {
    nodup_visiting := by simpa [hm.visiting] using hw.nodup_path hknown
    path := by
      rw [hm.visiting]
      exact List.isChain_reverse.mpr hw.isChain_path
    length_pending := by simp [hm.visiting, hm.pending, modulesOf, ids]
    looked := fun i id left => hm.looked hw
    emitted := by simp [hm.emitted, hm.order]
    disjoint := fun id hid => by
      have hpath : id ∈ ids (modulesOf w.path) := by simpa [hm.visiting] using hid
      exact mt hm.mem_emitted_iff.mp (hw.notMem_ordered_of_mem_path hknown hpath)
    closed := fun a ha b hab =>
      hm.mem_emitted_iff.mpr (hw.mem_ordered_of_dependsOn (hm.mem_emitted_iff.mp ha) hab)
    entered := hm.entered
    nodup_entered :=
      hentered.nodup_iff.mpr (List.nodup_append.mp (hw.nodup_ids hknown)).2.1
    entered_subset := fun id hid => by
      have hmem : id ∈ ids (lastCopies modules) :=
        (hw.parts.map ModuleDescriptor.id).subset (by
          simpa [ids] using Or.inr (List.mem_append.mp (hentered.subset hid)))
      exact ModuleDescriptor.mem_ids_lastCopies_iff.mp hmem }

/-- The invariant holds at every moment of a search. -/
theorem Reaches.inv (h : Reaches modules (start modules) s) : s.Inv modules := by
  obtain ⟨w, hw, hm⟩ := h.exists_matches
  exact hm.inv hw

/-! ## The number of turns -/

/-- While a module is being visited there is a turn left. -/
lemma Inv.turnsLeft_pos (h : s.Inv modules) (hvisiting : s.visiting ≠ []) :
    0 < s.turnsLeft modules := by
  have hpending : s.pending ≠ [] := fun hnil => hvisiting <| List.eq_nil_of_length_eq_zero <| by
    rw [← h.length_pending, hnil, List.length_nil]
  obtain ⟨pending, left, heq⟩ := (List.eq_nil_or_concat' s.pending).resolve_left hpending
  simp only [turnsLeft, heq, List.map_append, List.sum_append, List.map_cons, List.map_nil,
    List.sum_singleton]
  omega

/-- **The search keeps its stacks in order and ends in time.**  At every moment the invariant holds,
and a turn begins only while fewer have been taken than there are modules and dependencies inside
the bundle together.  So the search ends, with the order of the modules or with their cycle. -/
theorem sound_and_bounded (modules : List ModuleDescriptor) :
    (∀ s, Reaches modules (start modules) s → s.Inv modules ∧
      (s.visiting ≠ [] → s.turns < (ids modules).toFinset.card + (edges modules).card)) ∧
    ∃ last, Reaches modules (start modules) last ∧
      last.EndsWith modules ((Bundle.order modules).mapError .cycle) ∧
      last.turns ≤ (ids modules).toFinset.card + (edges modules).card := by
  refine ⟨fun s hs => ⟨hs.inv, fun hvisiting => ?_⟩, ?_⟩
  · have hleft := hs.inv.turnsLeft_pos hvisiting
    have hturns := hs.turns_add_turnsLeft_eq
    omega
  · obtain ⟨last, hlast, hends⟩ := exists_reaches_of_run modules (start modules)
    rw [run_start] at hends
    exact ⟨last, hlast, hends, Nat.le.intro hlast.turns_add_turnsLeft_eq⟩

/-- Two modules that depend on each other, the first one on a third, too, just before the cycle is
found: three of at most six turns have been taken. -/
theorem sound_and_bounded_mutual :
    ∃ modules s, Reaches modules (start modules) s ∧ s.visiting = [atOrigin "a", atOrigin "c"] ∧
      s.pending = [[], [atOrigin "a"]] ∧ s.emitted = {atOrigin "b"} ∧ s.turns = 3 ∧
      (ids modules).toFinset.card + (edges modules).card = 6 ∧ s.Inv modules ∧
      Bundle.order modules = .error ⟨[atOrigin "a", atOrigin "c", atOrigin "a"]⟩ := by
  let modules : List ModuleDescriptor :=
    [⟨atOrigin "a", [atOrigin "b", atOrigin "c"], [1]⟩, ⟨atOrigin "b", [], [2]⟩,
      ⟨atOrigin "c", [atOrigin "a"], [3]⟩]
  have hreach : Reaches modules (start modules)
      ⟨[atOrigin "b", atOrigin "c"], [atOrigin "a", atOrigin "c"], [[], [atOrigin "a"]],
        {atOrigin "b"}, [⟨atOrigin "b", [], [2]⟩],
        [atOrigin "a", atOrigin "b", atOrigin "c"], 3⟩ := by
    exact .head (by cbv) (.head (by cbv) (.head (by cbv) (.single (by cbv))))
  refine ⟨modules, _, hreach, rfl, rfl, rfl, rfl, by cbv, ((sound_and_bounded modules).1 _ hreach).1,
    by cbv⟩

end Search

end MovePack.Bundle
