/-
# The search over two stacks

Modules can be ordered by a loop over two stacks, one of the modules being visited and one of what
is left of the dependencies of each.  A turn of the loop takes the next dependency off the upper
stack and enters it, unless it has been emitted, or emits the innermost module when it has none
left.  Here the search is laid out with its variables and with everything that could stop it: a
cycle, a table that has nothing under a key, and a stack that has nothing on it.
-/
import Mathlib
import MovePack.Bundle.Order

namespace MovePack.Bundle

open ModuleDescriptor (ids lastCopy?)
open ModuleId (ascending)

/-- The variables of the search, and what it has done so far. -/
structure Search where
  /-- The modules that are still to be taken as roots. -/
  roots : List ModuleId
  /-- The modules being visited, the innermost last. -/
  visiting : List ModuleId
  /-- What each module being visited has not looked at of its dependencies. -/
  pending : List (List ModuleId)
  /-- The modules that have been put into the order. -/
  emitted : Finset ModuleId
  /-- The order. -/
  order : List ModuleDescriptor
  /-- The modules that have been entered so far, which no turn looks at. -/
  entered : List ModuleId
  /-- The number of turns so far, which no turn looks at. -/
  turns : Nat

namespace Search

/-- What can stop the search. -/
inductive Stop where
  /-- Modules depend on each other. -/
  | cycle (fault : CycleFault)
  /-- The table of modules has nothing under an identity. -/
  | key
  /-- A stack has nothing on it. -/
  | index

/-- The variables before the first turn. -/
def start (modules : List ModuleDescriptor) : Search where
  roots := ascending (ids modules)
  visiting := []
  pending := []
  emitted := ∅
  order := []
  entered := []
  turns := 0

/-- The descriptor that the table of modules has under an identity. -/
def lookUp (modules : List ModuleDescriptor) (id : ModuleId) : Except Stop ModuleDescriptor :=
  match lastCopy? modules id with
  | some d => .ok d
  | none => .error .key

/-- Enters a module, which closes a cycle when it is being visited. -/
def enter (modules : List ModuleDescriptor) (id : ModuleId) (s : Search) : Except Stop Search :=
  if id ∈ s.visiting then .error (.cycle ⟨s.visiting.dropWhile (· ≠ id) ++ [id]⟩)
  else do
    let d ← lookUp modules id
    return { s with
      visiting := s.visiting ++ [id]
      pending := s.pending ++ [ascending (d.dependencies.filter (· ∈ ids modules))]
      entered := s.entered ++ [id] }

/-- One turn of the loop: the innermost module is emitted when it has nothing left to look at; else
its next dependency is entered, unless it has been emitted. -/
def turn (modules : List ModuleDescriptor) (s : Search) : Except Stop Search :=
  let s := { s with turns := s.turns + 1 }
  match s.pending.getLast? with
  | none => .error .index
  | some [] =>
    match s.visiting.getLast? with
    | none => .error .index
    | some id => do
      let d ← lookUp modules id
      return { s with
        visiting := s.visiting.dropLast
        pending := s.pending.dropLast
        emitted := insert id s.emitted
        order := s.order ++ [d] }
  | some (id :: rest) =>
    let s := { s with pending := s.pending.dropLast ++ [rest] }
    if id ∈ s.emitted then .ok s else enter modules id s

/-- What follows: a turn of the loop while a module is being visited, and else the next root, which
is entered unless it has been emitted.  Nothing follows when no root is left. -/
def next? (modules : List ModuleDescriptor) (s : Search) : Option (Except Stop Search) :=
  if s.visiting ≠ [] then some (turn modules s)
  else
    match s.roots with
    | [] => none
    | root :: rest =>
      if root ∈ s.emitted then some (.ok { s with roots := rest })
      else some (enter modules root { s with roots := rest })

/-- The search comes from the one state to the other. -/
def Reaches (modules : List ModuleDescriptor) : Search → Search → Prop :=
  Relation.ReflTransGen fun s next => next? modules s = some (.ok next)

/-- The search goes no further, and what it ends with. -/
def EndsWith (modules : List ModuleDescriptor) (s : Search) :
    Except Stop (List ModuleDescriptor) → Prop
  | .ok ordered => next? modules s = none ∧ s.order = ordered
  | .error stop => next? modules s = some (.error stop)

end Search

end MovePack.Bundle
