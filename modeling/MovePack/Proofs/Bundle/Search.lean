/-
# The turns of the search

No turn of the search over two stacks is lost: whatever its variables are, a turn takes one off the
number of modules to enter and dependencies to look at.  So the search ends.
-/
import Mathlib
import MovePack.Bundle.Search
import MovePack.Proofs.Bundle.Recursion
import MovePack.Proofs.Except

namespace MovePack

namespace ModuleDescriptor

open ModuleId (ascending)

variable {modules : List ModuleDescriptor} {a b : ModuleId}

/-! ## The dependencies inside a bundle -/

instance : Decidable (DependsOn modules a b) :=
  inferInstanceAs (Decidable (∃ d ∈ lastCopy? modules a, b ∈ d.dependencies ∧ b ∈ ids modules))

/-- The modules that a module depends on inside the bundle, in ascending order. -/
def dependenciesInside (modules : List ModuleDescriptor) (a : ModuleId) : List ModuleId :=
  ascending ((ids modules).filter fun b => DependsOn modules a b)

/-- The dependencies inside a bundle, each a pair of a module and one that it depends on. -/
def edges (modules : List ModuleDescriptor) : Finset (ModuleId × ModuleId) :=
  ((ids modules).toFinset ×ˢ (ids modules).toFinset).filter fun e => DependsOn modules e.1 e.2

lemma mem_dependenciesInside : b ∈ dependenciesInside modules a ↔ DependsOn modules a b := by
  have hmem : DependsOn modules a b → b ∈ ids modules := fun ⟨_, _, _, hb⟩ => hb
  simpa [dependenciesInside, ModuleId.mem_ascending] using hmem

/-- What the last copy of a module names inside the bundle are the dependencies of the module. -/
lemma ascending_dependencies_eq {d : ModuleDescriptor} (h : lastCopy? modules a = some d) :
    ascending (d.dependencies.filter (· ∈ ids modules)) = dependenciesInside modules a := by
  refine ModuleId.ascending_congr fun b => ?_
  simp only [List.mem_filter, decide_eq_true_eq, DependsOn, h, Option.some.injEq, exists_eq_left']
  tauto

lemma dependenciesAmong_eq_dependenciesInside {d : ModuleDescriptor}
    (h : d ∈ lastCopies modules) :
    d.dependenciesAmong (lastCopies modules) = dependenciesInside modules d.id := by
  rw [dependenciesAmong_lastCopies, ascending_dependencies_eq (mem_lastCopies_iff.mp h)]

/-- The dependencies inside a bundle, counted module by module. -/
lemma card_edges (modules : List ModuleDescriptor) :
    (edges modules).card = ∑ a ∈ (ids modules).toFinset, (dependenciesInside modules a).length := by
  rw [edges, Finset.card_filter, Finset.sum_product]
  refine Finset.sum_congr rfl fun a _ => ?_
  rw [← Finset.card_filter, dependenciesInside,
    ← List.toFinset_card_of_nodup (ModuleId.nodup_ascending _)]
  congr 1
  ext b
  simp [ModuleId.mem_ascending]

end ModuleDescriptor

namespace Bundle

open ModuleDescriptor (ids lastCopy? dependenciesInside edges)

namespace Search

/-! ## The turns that are left -/

variable {modules : List ModuleDescriptor} {s next : Search} {id : ModuleId}

/-- The modules that are neither being visited nor emitted. -/
def unentered (modules : List ModuleDescriptor) (s : Search) : Finset ModuleId :=
  (ids modules).toFinset.filter fun id => id ∉ s.visiting ∧ id ∉ s.emitted

/-- The turns that are left: one for each dependency to be looked at, and one to emit each module.
-/
def turnsLeft (modules : List ModuleDescriptor) (s : Search) : Nat :=
  ∑ id ∈ s.unentered modules, ((dependenciesInside modules id).length + 1) +
    (s.pending.map (·.length + 1)).sum

lemma lookUp_eq_ok_iff {d : ModuleDescriptor} :
    lookUp modules id = .ok d ↔ lastCopy? modules id = some d := by
  unfold lookUp
  split <;> simp [*]

/-- The search that has entered a module. -/
def entering (modules : List ModuleDescriptor) (id : ModuleId) (s : Search) : Search :=
  { s with
    visiting := s.visiting ++ [id]
    pending := s.pending ++ [dependenciesInside modules id]
    entered := s.entered ++ [id] }

lemma enter_of_mem_visiting (hid : id ∈ s.visiting) :
    enter modules id s = .error (.cycle ⟨s.visiting.dropWhile (· ≠ id) ++ [id]⟩) := by
  rw [enter, if_pos hid]

lemma enter_of_lastCopy? {d : ModuleDescriptor} (hid : id ∉ s.visiting)
    (hd : lastCopy? modules id = some d) : enter modules id s = .ok (s.entering modules id) := by
  rw [enter, if_neg hid, lookUp_eq_ok_iff.mpr hd, entering,
    ← ModuleDescriptor.ascending_dependencies_eq hd]
  rfl

/-- What a module that can be entered is, and what entering it does. -/
lemma enter_eq_ok_iff :
    enter modules id s = .ok next ↔
      id ∉ s.visiting ∧ id ∈ ids modules ∧ next = s.entering modules id := by
  by_cases hid : id ∈ s.visiting
  · simp [enter_of_mem_visiting, hid]
  cases hd : lastCopy? modules id with
  | none => simp [enter, hid, lookUp, hd, ModuleDescriptor.lastCopy?_eq_none_iff.mp hd]
  | some d =>
    have hmem : id ∈ ids modules := by
      by_contra h
      simp [ModuleDescriptor.lastCopy?_eq_none_iff.mpr h] at hd
    simp [enter_of_lastCopy? hid hd, hid, hmem, eq_comm]

/-- Entering a module puts off its turns. -/
lemma turnsLeft_entering (hid : id ∈ s.unentered modules) :
    (s.entering modules id).turnsLeft modules = s.turnsLeft modules := by
  have herase : (s.entering modules id).unentered modules = (s.unentered modules).erase id := by
    ext a
    simp only [unentered, entering, Finset.mem_filter, Finset.mem_erase, List.mem_append,
      List.mem_singleton]
    tauto
  rw [turnsLeft, turnsLeft, herase, ← Finset.add_sum_erase _ _ hid]
  simp only [entering, List.map_append, List.sum_append, List.map_cons, List.map_nil,
    List.sum_singleton]
  omega

/-- What a turn does: it emits the innermost module, or takes a dependency off the upper stack. -/
lemma turn_cases (h : turn modules s = .ok next) :
    (∃ visiting id pending d, s.visiting = visiting ++ [id] ∧ s.pending = pending ++ [[]] ∧
      next = { s with
        visiting, pending, emitted := insert id s.emitted, order := s.order ++ [d],
        turns := s.turns + 1 }) ∨
    ∃ pending id rest, s.pending = pending ++ [id :: rest] ∧
      let s := { s with pending := pending ++ [rest], turns := s.turns + 1 }
      id ∈ s.emitted ∧ next = s ∨ id ∉ s.emitted ∧ enter modules id s = .ok next := by
  simp only [turn] at h
  split at h
  · cases h
  · rename_i hpending
    obtain ⟨pending, hpending⟩ := List.getLast?_eq_some_iff.mp hpending
    split at h
    · cases h
    · rename_i id hvisiting
      obtain ⟨visiting, hvisiting⟩ := List.getLast?_eq_some_iff.mp hvisiting
      obtain ⟨d, -, hnext⟩ := Except.bind_eq_ok_iff.mp h
      cases hnext
      exact .inl ⟨visiting, id, pending, d, hvisiting, hpending, by simp [hvisiting, hpending]⟩
  · rename_i id rest hpending
    obtain ⟨pending, hpending⟩ := List.getLast?_eq_some_iff.mp hpending
    rw [hpending, List.dropLast_concat] at h
    refine .inr ⟨pending, id, rest, hpending, ?_⟩
    split at h
    · rename_i hid
      cases h
      exact .inl ⟨hid, rfl⟩
    · rename_i hid
      exact .inr ⟨hid, h⟩

/-- **No turn is lost.**  A turn takes one off the turns that are left. -/
lemma turnsLeft_of_turn (h : turn modules s = .ok next) :
    next.turns = s.turns + 1 ∧ next.turnsLeft modules + 1 = s.turnsLeft modules := by
  obtain ⟨visiting, id, pending, d, hvisiting, hpending, rfl⟩ |
    ⟨pending, id, rest, hpending, ⟨-, rfl⟩ | ⟨hid, henter⟩⟩ := turn_cases h
  · refine ⟨rfl, ?_⟩
    -- the module that is emitted was being visited, so those to enter stay the same
    have hsame : unentered modules { s with
        visiting, pending, emitted := insert id s.emitted, order := s.order ++ [d],
        turns := s.turns + 1 } = s.unentered modules := by
      ext a
      simp only [unentered, hvisiting, Finset.mem_filter, Finset.mem_insert, List.mem_append,
        List.mem_singleton]
      tauto
    simp only [turnsLeft, hsame]
    simp [hpending]
    omega
  · refine ⟨rfl, ?_⟩
    simp only [turnsLeft, unentered, hpending]
    simp
    omega
  · obtain ⟨hvisiting, hmem, rfl⟩ := enter_eq_ok_iff.mp henter
    refine ⟨rfl, ?_⟩
    rw [turnsLeft_entering (by simpa [unentered] using ⟨hmem, hvisiting, hid⟩)]
    simp only [turnsLeft, unentered, hpending]
    simp
    omega

/-- A step of the search costs a turn, or else it takes a root. -/
lemma turnsLeft_of_next? (h : next? modules s = some (.ok next)) :
    next.turns + next.turnsLeft modules = s.turns + s.turnsLeft modules ∧
      (next.turnsLeft modules < s.turnsLeft modules ∨
        next.turnsLeft modules = s.turnsLeft modules ∧ next.roots.length < s.roots.length) := by
  rw [next?] at h
  split_ifs at h
  · have hturn := turnsLeft_of_turn (Option.some.inj h)
    omega
  · split at h
    · cases h
    · rename_i root rest hroots
      have hlength : rest.length < s.roots.length := by simp [hroots]
      split_ifs at h with hroot
      · cases h
        exact ⟨rfl, .inr ⟨rfl, hlength⟩⟩
      · obtain ⟨hvisiting, hmem, rfl⟩ := enter_eq_ok_iff.mp (Option.some.inj h)
        have hleft : (entering modules root { s with roots := rest }).turnsLeft modules =
            s.turnsLeft modules :=
          turnsLeft_entering (by simpa [unentered] using ⟨hmem, hvisiting, hroot⟩)
        exact ⟨congrArg (s.turns + ·) hleft, .inr ⟨hleft, hlength⟩⟩

/-- Takes turns and roots until nothing follows. -/
def run (modules : List ModuleDescriptor) (s : Search) : Except Stop (List ModuleDescriptor) :=
  match _next : next? modules s with
  | none => .ok s.order
  | some (.error stop) => .error stop
  | some (.ok next) => run modules next
termination_by (s.turnsLeft modules, s.roots.length)
decreasing_by
  obtain ⟨-, hless | ⟨hsame, hless⟩⟩ := turnsLeft_of_next? _next
  · exact Prod.Lex.left _ _ hless
  · rw [hsame]
    exact Prod.Lex.right _ hless

/-! ## Runs of the search -/

/-- A run comes to an end. -/
lemma exists_reaches_of_run (modules : List ModuleDescriptor) (s : Search) :
    ∃ last, Reaches modules s last ∧ last.EndsWith modules (run modules s) := by
  fun_induction run modules s with
  | case1 s hnone => exact ⟨s, .refl, hnone, rfl⟩
  | case2 s stop hstop => exact ⟨s, .refl, hstop⟩
  | case3 s next hnext ih =>
    obtain ⟨last, hreach, hlast⟩ := ih
    exact ⟨last, .head hnext hreach, hlast⟩

/-- The turns that a search has taken and those that are left stay the same together. -/
lemma Reaches.turns_add_turnsLeft (h : Reaches modules s next) :
    next.turns + next.turnsLeft modules = s.turns + s.turnsLeft modules := by
  induction h with
  | refl => rfl
  | tail _ hnext ih => exact (turnsLeft_of_next? hnext).1.trans ih

/-- A search has one turn for each module and one for each dependency inside the bundle. -/
lemma turnsLeft_start (modules : List ModuleDescriptor) :
    (start modules).turnsLeft modules = (ids modules).toFinset.card + (edges modules).card := by
  simp [turnsLeft, unentered, start, ModuleDescriptor.card_edges, Finset.sum_add_distrib, add_comm]

/-- The turns taken and the turns left are together what a search begins with. -/
lemma Reaches.turns_add_turnsLeft_eq (h : Reaches modules (start modules) s) :
    s.turns + s.turnsLeft modules = (ids modules).toFinset.card + (edges modules).card := by
  rw [h.turns_add_turnsLeft, turnsLeft_start, start, Nat.zero_add]

end Search

end Bundle

end MovePack
