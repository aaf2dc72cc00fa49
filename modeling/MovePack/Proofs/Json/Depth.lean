/-
# Containers inside of each other

A JSON text is refused for its depth only if it opens many containers: every array and object around
a value takes a bracket of its own, and what a reader leaves of the text is an end of it.  So a text
with few brackets is read or departs from the grammar, however long it is.
-/
import Mathlib.Data.List.Infix
import MovePack.Proofs.Except
import MovePack.Proofs.Json.Strings
import MovePack.Proofs.Text.Hex

namespace MovePack.Json

/-- The character opens an array or an object. -/
def isOpening (c : CodePoint) : Bool := c = .scalar '[' || c = .scalar '\x7b'

namespace Reader

variable {α : Type} {t rest : Text} {fuel nesting : Nat}

/-- What a reader leaves of the text is an end of it, unless it stops for another reason than
depth. -/
abbrev Leaves (t : Text) (x : Except Stop (α × Text)) : Prop :=
  x.Settles (fun r => r.2 <:+ t) fun s => ∀ container, s ≠ .tooDeep container

lemma Leaves.of_suffix {t' : Text} {x : Except Stop (α × Text)} (hx : Leaves t x) (h : t <:+ t') :
    Leaves t' x :=
  hx.mono fun _ hrest => hrest.trans h

lemma stop_leaves (problem : Problem) (rest : Text) :
    Leaves t (stop problem rest : Except Stop (α × Text)) :=
  .error nofun

lemma skipSpace_suffix (t : Text) : skipSpace t <:+ t := List.dropWhile_suffix _

/-- What follows a character behind white space. -/
lemma suffix_of_skipSpace {c : CodePoint} (h : skipSpace t = c :: rest) : rest <:+ t :=
  (List.suffix_cons c rest).trans (h ▸ skipSpace_suffix t)

/-! ## Strings and numbers -/

lemma string_leaves (opening t : Text) : Leaves t (string opening t) := by
  fun_induction string opening t with
  | case1 => exact stop_leaves _ _
  | case2 rest => exact .ok (List.suffix_cons _ rest)
  | case3 => exact stop_leaves _ _
  | case4 d₁ d₂ d₃ d₄ next rest' x hx _ ih =>
    refine ih.map fun r hr => hr.trans ?_
    exact List.suffix_append [.scalar '\x5c', .scalar 'u', d₁, d₂, d₃, d₄] (next :: rest')
  | case5 => exact stop_leaves _ _
  | case6 => exact stop_leaves _ _
  | case7 mark rest _ x _ _ ih =>
    refine ih.map fun r hr => hr.trans ?_
    exact List.suffix_append [.scalar '\x5c', mark] rest
  | case8 => exact stop_leaves _ _
  | case9 => exact stop_leaves _ _
  | case10 c rest _ _ _ ih => exact ih.map fun r hr => hr.trans (List.suffix_cons c rest)

lemma spanDigits_suffix (t : Text) : (spanDigits t).2 <:+ t := by
  induction t with
  | nil => exact List.suffix_rfl
  | cons c t ih =>
    rw [spanDigits]
    cases c.asciiDigit? with
    | none => exact List.suffix_rfl
    | some digit => exact ih.trans (List.suffix_cons c t)

lemma suffix_of_spanDigits {digits : List Nat} (h : spanDigits t = (digits, rest)) :
    rest <:+ t := by
  have hsuffix := spanDigits_suffix t
  rwa [h] at hsuffix

lemma suffix_of_wholePart? {digits : List Nat} (h : wholePart? t = some (digits, rest)) :
    rest <:+ t := by
  unfold wholePart? at h
  split at h
  next =>
    cases h
    exact List.suffix_cons _ _
  next =>
    split at h
    next => cases h
    next => exact suffix_of_spanDigits (Option.some.inj h)

lemma suffix_of_fractionPart? {digits : List Nat} (h : fractionPart? t = some (digits, rest)) :
    rest <:+ t := by
  unfold fractionPart? at h
  split at h
  next =>
    split at h
    next => cases h
    next => exact (suffix_of_spanDigits (Option.some.inj h)).trans (List.suffix_cons _ _)
  next => cases h

lemma signed_suffix (t : Text) :
    (match t with
      | .scalar '-' :: rest => (true, rest)
      | .scalar '+' :: rest => (false, rest)
      | rest => (false, rest) : Bool × Text).2 <:+ t := by
  split
  next => exact List.suffix_cons _ _
  next => exact List.suffix_cons _ _
  next => exact List.suffix_rfl

lemma suffix_of_exponentPart? {power : Int} (h : exponentPart? t = some (power, rest)) :
    rest <:+ t := by
  unfold exponentPart? at h
  split at h
  next mark after =>
    split_ifs at h
    simp only at h
    split at h
    next => cases h
    next hspan =>
      cases h
      exact ((suffix_of_spanDigits hspan).trans (signed_suffix after)).trans
        (List.suffix_cons mark after)
  next => cases h

lemma unsignedNumber?_leaves {negative : Bool} {outcome : Except Stop (Json × Text)}
    (h : unsignedNumber? negative t = some outcome) : Leaves t outcome := by
  obtain ⟨⟨whole, t₁⟩, hwhole, h⟩ := Option.map_eq_some_iff.mp h
  have hbehind := (Text.suffix_getD 0 suffix_of_exponentPart?).trans
    ((Text.suffix_getD [] suffix_of_fractionPart?).trans (suffix_of_wholePart? hwhole))
  simp only at h
  split_ifs at h
  all_goals cases h
  · exact .error nofun
  all_goals exact .ok hbehind

lemma number_leaves (t : Text) : Leaves t (number t) := by
  have hfound : ∀ {negative : Bool} {t' : Text}, t' <:+ t →
      Leaves t ((unsignedNumber? negative t').getD (stop .expectingValue t)) := by
    intro negative t' ht'
    cases hnumber : unsignedNumber? negative t' with
    | none => exact stop_leaves _ _
    | some outcome => exact (unsignedNumber?_leaves hnumber).of_suffix ht'
  rw [number.eq_def]
  simp only
  split
  next => exact hfound (List.suffix_cons _ _)
  next => exact hfound List.suffix_rfl

lemma scalar_leaves (t : Text) : Leaves t (scalar t) := by
  rw [scalar]
  cases hword : word? t with
  | none => exact number_leaves t
  | some found =>
    obtain ⟨w, -, hfound⟩ := List.exists_of_findSome?_eq_some hword
    obtain ⟨tail, htail, rfl⟩ := Option.map_eq_some_iff.mp hfound
    refine .ok ?_
    rw [Text.dropPrefix?_eq_some_iff.mp htail]
    exact List.suffix_append _ _

/-! ## Values -/

/-- With the given fuel the readers of values, elements and members leave an end of a text with
fewer brackets than containers may lie in each other. -/
def ReadsWithin (fuel : Nat) : Prop :=
  ∀ {nesting : Nat} {t : Text}, t.countP isOpening ≤ nesting →
    Leaves t (value fuel nesting t) ∧ Leaves t (elements fuel nesting t) ∧
      ∀ before, Leaves t (members fuel nesting before t)

lemma countP_le {t' : Text} (h : t <:+ t') (hcount : t'.countP isOpening ≤ nesting) :
    t.countP isOpening ≤ nesting :=
  h.sublist.countP_le.trans hcount

lemma countP_lt {c : CodePoint} (hc : isOpening c = true)
    (h : (c :: t).countP isOpening ≤ nesting) : ∃ inner, nesting = inner + 1 ∧
      t.countP isOpening ≤ inner := by
  rw [List.countP_cons_of_pos hc] at h
  exact ⟨nesting - 1, by omega, by omega⟩

/-- A bracket makes up for the container that it opens. -/
lemma value_leaves (ih : ReadsWithin fuel) (h : t.countP isOpening ≤ nesting) :
    Leaves t (value (fuel + 1) nesting t) := by
  rw [value.eq_def]
  simp only
  split
  next after =>
    refine (string_leaves _ after).map fun r hr => ?_
    exact hr.trans (List.suffix_cons _ after)
  next after =>
    obtain ⟨inner, rfl, hinner⟩ := countP_lt (by decide) h
    have hspace := skipSpace_suffix after
    simp only
    split
    next htail => exact .ok ((suffix_of_skipSpace htail).trans (List.suffix_cons _ after))
    next =>
      refine (ih (countP_le hspace hinner)).2.1.map fun r hr => ?_
      exact (hr.trans hspace).trans (List.suffix_cons _ after)
  next after =>
    obtain ⟨inner, rfl, hinner⟩ := countP_lt (by decide) h
    have hspace := skipSpace_suffix after
    simp only
    split
    next htail => exact .ok ((suffix_of_skipSpace htail).trans (List.suffix_cons _ after))
    next =>
      refine ((ih (countP_le hspace hinner)).2.2 []).map fun r hr => ?_
      exact (hr.trans hspace).trans (List.suffix_cons _ after)
  next => exact scalar_leaves t

lemma elements_leaves (ih : ReadsWithin fuel) (h : t.countP isOpening ≤ nesting) :
    Leaves t (elements (fuel + 1) nesting t) := by
  rw [elements.eq_def]
  simp only
  have hvalue := (ih h).1
  generalize value fuel nesting t = found at hvalue
  cases hvalue with
  | error hs => exact .error hs
  | @ok r hr =>
    simp only
    split
    next htail => exact .ok ((suffix_of_skipSpace htail).trans hr)
    next after hafter =>
      have hnext := (skipSpace_suffix after).trans ((suffix_of_skipSpace hafter).trans hr)
      exact (ih (countP_le hnext h)).2.1.map fun r' hr' => hr'.trans hnext
    next => exact stop_leaves _ _

lemma members_leaves (ih : ReadsWithin fuel) (h : t.countP isOpening ≤ nesting)
    (before : List (Text × Json)) : Leaves t (members (fuel + 1) nesting before t) := by
  rw [members.eq_def]
  simp only
  split
  next after =>
    have hname := (string_leaves (.scalar '\x22' :: after) after).of_suffix
      (List.suffix_cons (.scalar '\x22') after)
    generalize string (.scalar '\x22' :: after) after = found at hname
    cases hname with
    | error hs => exact .error hs
    | @ok r hr =>
      simp only
      split
      next behind hbehind =>
        have hv := (skipSpace_suffix behind).trans ((suffix_of_skipSpace hbehind).trans hr)
        have hvalue := (ih (countP_le hv h)).1.of_suffix hv
        generalize value fuel nesting (skipSpace behind) = found at hvalue
        cases hvalue with
        | error hs => exact .error hs
        | @ok r hr =>
          simp only
          split
          next htail => exact .ok ((suffix_of_skipSpace htail).trans hr)
          next after hcomma =>
            have hnext := (skipSpace_suffix after).trans ((suffix_of_skipSpace hcomma).trans hr)
            exact ((ih (countP_le hnext h)).2.2 _).of_suffix hnext
          next => exact stop_leaves _ _
      next => exact stop_leaves _ _
  next => exact stop_leaves _ _

lemma readsWithin (fuel : Nat) : ReadsWithin fuel := by
  induction fuel with
  | zero =>
    -- without fuel a reader stops as at a text that departs from the grammar
    intro nesting t _
    rw [value, elements]
    exact ⟨stop_leaves _ _, stop_leaves _ _, fun before => by
      rw [members]
      exact stop_leaves _ _⟩
  | succ fuel ih => exact fun h => ⟨value_leaves ih h, elements_leaves ih h, members_leaves ih h⟩

/-- A text with few brackets does not lie too deep. -/
lemma document_ne_tooDeep (h : t.countP isOpening ≤ maxNesting) (container : Container) :
    document t ≠ .error (.tooDeep container) := by
  have hvalue := (readsWithin (2 * (skipSpace t).length + 2)
    (countP_le (skipSpace_suffix t) h)).1
  rw [document]
  generalize value (2 * (skipSpace t).length + 2) maxNesting (skipSpace t) = found at hvalue
  cases hvalue with
  | error hs =>
    intro heq
    exact hs container (Except.error.inj heq)
  | ok =>
    simp only
    split
    all_goals
      intro heq
      cases heq

end Reader

/-- A text with few brackets is read or departs from the grammar. -/
theorem ofUnmarkedText_ne_tooDeep {t : Text} (h : t.countP isOpening ≤ maxNesting)
    (container : Container) : ofUnmarkedText t ≠ .error (.tooDeep container) := by
  have hdocument := Reader.document_ne_tooDeep h
  rw [ofUnmarkedText]
  cases hread : Reader.document t with
  | ok v =>
    intro heq
    cases heq
  | error s =>
    intro heq
    cases s with
    | tooDeep container => exact hdocument container hread
    | here => cases heq
    | tooManyDigits => cases heq

end MovePack.Json
