/-
# Integers of JSON values

A numeral with more than 4300 digits is refused, so no integer in a value that is read has more
digits.  What holds of the integers of an element or of a member holds of the whole array or object,
and the rest of the reader makes no integers.
-/
import MovePack.Json.Reader
import MovePack.Proofs.Except
import MovePack.Proofs.Radix
import MovePack.Proofs.Text.CodePoint

namespace MovePack.Json

/-- All integers in a value have at most as many digits as an integer may have. -/
inductive IsShort : Json → Prop where
  | null : IsShort .null
  | bool (b : Bool) : IsShort (.bool b)
  | int {i : Int} (h : i.natAbs < 10 ^ maxDigits) : IsShort (.int i)
  | float (x : Binary64) : IsShort (.float x)
  | str (t : Text) : IsShort (.str t)
  | arr {elements : List Json} (h : ∀ v ∈ elements, IsShort v) : IsShort (.arr elements)
  | obj {members : List (Text × Json)} (h : ∀ m ∈ members, IsShort m.2) : IsShort (.obj members)

lemma isShort_arr_iff {elements : List Json} :
    IsShort (.arr elements) ↔ ∀ v ∈ elements, IsShort v :=
  ⟨fun h => by cases h; assumption, .arr⟩

lemma isShort_of_mem_insertMember {name : Text} {v : Json} {members : List (Text × Json)}
    (hv : IsShort v) (hmembers : ∀ m ∈ members, IsShort m.2) :
    ∀ m ∈ insertMember name v members, IsShort m.2 := by
  induction members with
  | nil => simpa [insertMember] using hv
  | cons first rest ih =>
    obtain ⟨known, old⟩ := first
    obtain ⟨hold, hrest⟩ := List.forall_mem_cons.mp hmembers
    rw [insertMember]
    split_ifs
    · exact List.forall_mem_cons.mpr ⟨hv, hrest⟩
    · exact List.forall_mem_cons.mpr ⟨hold, ih hrest⟩

namespace Reader

/-! ## Numerals -/

lemma lt_of_mem_spanDigits {t : Text} {d : Nat} (hd : d ∈ (spanDigits t).1) : d < 10 := by
  induction t with
  | nil => cases hd
  | cons c t ih =>
    rw [spanDigits] at hd
    cases hc : c.asciiDigit? with
    | none =>
      rw [hc] at hd
      cases hd
    | some digit =>
      rw [hc] at hd
      obtain rfl | hd := List.mem_cons.mp hd
      · exact CodePoint.lt_of_asciiDigit? hc
      · exact ih hd

lemma lt_of_wholePart? {t rest : Text} {whole : List Nat} (h : wholePart? t = some (whole, rest))
    {d : Nat} (hd : d ∈ whole) : d < 10 := by
  unfold wholePart? at h
  split at h
  next =>
    cases h
    obtain rfl := List.mem_singleton.mp hd
    decide
  next =>
    split at h
    next => cases h
    next =>
      rw [Option.some.injEq] at h
      exact @lt_of_mem_spanDigits t d (h ▸ hd)

lemma isShort_of_unsignedNumber? {negative : Bool} {t rest : Text} {v : Json}
    (h : unsignedNumber? negative t = some (.ok (v, rest))) : IsShort v := by
  obtain ⟨⟨whole, tail⟩, hwhole, h⟩ := Option.map_eq_some_iff.mp h
  simp only at h
  split at h
  next =>
    split at h
    next => cases h
    next hdigits =>
      cases h
      have hvalue : Radix.value 10 whole < 10 ^ maxDigits :=
        (Radix.value_lt (by decide) fun d hd => lt_of_wholePart? hwhole hd).trans_le
          (Nat.pow_le_pow_right (by decide) (Nat.not_lt.mp hdigits))
      refine .int ?_
      cases negative <;> simpa using hvalue
  next =>
    cases h
    exact .float _

lemma isShort_of_word? {t rest : Text} {v : Json} (h : word? t = some (v, rest)) : IsShort v := by
  obtain ⟨w, hw, hfound⟩ := List.exists_of_findSome?_eq_some h
  obtain ⟨tail, -, heq⟩ := Option.map_eq_some_iff.mp hfound
  cases heq
  simp only [words, List.mem_cons, List.not_mem_nil, or_false] at hw
  rcases hw with hw | hw | hw | hw | hw | hw <;> cases hw
  · exact .null
  · exact .bool _
  · exact .bool _
  all_goals exact .float _

lemma isShort_of_number {t rest : Text} {v : Json} (h : number t = .ok (v, rest)) : IsShort v := by
  have hfound : ∀ {negative t'},
      (unsignedNumber? negative t').getD (stop .expectingValue t) = .ok (v, rest) → IsShort v := by
    intro negative t' h
    cases hnumber : unsignedNumber? negative t' with
    | none =>
      rw [hnumber] at h
      cases h
    | some found =>
      rw [hnumber] at h
      exact isShort_of_unsignedNumber? (hnumber.trans (congrArg some h))
  unfold number at h
  simp only at h
  split at h <;> exact hfound h

lemma isShort_of_scalar {t rest : Text} {v : Json} (h : scalar t = .ok (v, rest)) :
    IsShort v := by
  rw [scalar] at h
  cases hword : word? t with
  | some found =>
    rw [hword] at h
    cases h
    exact isShort_of_word? hword
  | none =>
    rw [hword] at h
    exact isShort_of_number h

/-! ## Values -/

/-- What is read with so much fuel has no long integers. -/
structure ReadsShort (fuel : Nat) : Prop where
  value {nesting : Nat} {t rest : Text} {v : Json} (h : value fuel nesting t = .ok (v, rest)) :
    IsShort v
  elements {nesting : Nat} {t rest : Text} {es : List Json}
    (h : elements fuel nesting t = .ok (es, rest)) : ∀ v ∈ es, IsShort v
  members {nesting : Nat} {before ms : List (Text × Json)} {t rest : Text}
    (hbefore : ∀ m ∈ before, IsShort m.2) (h : members fuel nesting before t = .ok (ms, rest)) :
    ∀ m ∈ ms, IsShort m.2

variable {fuel nesting : Nat} {t rest : Text}

lemma ReadsShort.value_succ (ih : ReadsShort fuel) {v : Json}
    (h : Reader.value (fuel + 1) nesting t = .ok (v, rest)) : IsShort v := by
  unfold Reader.value at h
  split at h
  next =>
    obtain ⟨found, -, heq⟩ := Except.map_eq_ok_iff.mp h
    cases heq
    exact .str _
  next =>
    split at h
    next => cases h
    next =>
      split at h
      next =>
        cases h
        exact .arr (by simp)
      next =>
        obtain ⟨found, hfound, heq⟩ := Except.map_eq_ok_iff.mp h
        cases heq
        exact .arr (ih.elements hfound)
  next =>
    split at h
    next => cases h
    next =>
      split at h
      next =>
        cases h
        exact .obj (by simp)
      next =>
        obtain ⟨found, hfound, heq⟩ := Except.map_eq_ok_iff.mp h
        cases heq
        exact .obj (ih.members (by simp) hfound)
  next => exact isShort_of_scalar h

lemma ReadsShort.elements_succ (ih : ReadsShort fuel) {es : List Json}
    (h : Reader.elements (fuel + 1) nesting t = .ok (es, rest)) : ∀ v ∈ es, IsShort v := by
  unfold Reader.elements at h
  split at h
  next => cases h
  next v _ hvalue =>
    split at h
    next =>
      cases h
      exact List.forall_mem_singleton.mpr (ih.value hvalue)
    next =>
      obtain ⟨found, hfound, heq⟩ := Except.map_eq_ok_iff.mp h
      cases heq
      exact List.forall_mem_cons.mpr ⟨ih.value hvalue, ih.elements hfound⟩
    next => cases h

lemma ReadsShort.members_succ (ih : ReadsShort fuel) {before ms : List (Text × Json)}
    (hbefore : ∀ m ∈ before, IsShort m.2)
    (h : Reader.members (fuel + 1) nesting before t = .ok (ms, rest)) :
    ∀ m ∈ ms, IsShort m.2 := by
  unfold Reader.members at h
  split at h
  next =>
    split at h
    next => cases h
    next name _ _ =>
      split at h
      next =>
        split at h
        next => cases h
        next v _ hvalue =>
          have hknown : ∀ m ∈ insertMember name v before, IsShort m.2 :=
            isShort_of_mem_insertMember (ih.value hvalue) hbefore
          simp only at h
          split at h
          next =>
            cases h
            exact hknown
          next => exact ih.members hknown h
          next => cases h
      next => cases h
  next => cases h

lemma readsShort (fuel : Nat) : ReadsShort fuel := by
  induction fuel with
  | zero => exact ⟨nofun, nofun, nofun⟩
  | succ fuel ih => exact ⟨ih.value_succ, ih.elements_succ, ih.members_succ⟩

lemma isShort_of_document {v : Json} (h : document t = .ok v) : IsShort v := by
  unfold document at h
  simp only at h
  split at h
  next => cases h
  next hvalue =>
    split at h
    next =>
      cases h
      exact (readsShort _).value hvalue
    next => cases h

end Reader

/-- No integer in a value that is read has too many digits. -/
theorem isShort_of_ofText {t : Text} {v : Json} (h : ofText t = .ok v) : IsShort v := by
  rw [ofText] at h
  split_ifs at h
  rw [ofUnmarkedText] at h
  split at h
  next hdocument =>
    cases h
    exact Reader.isShort_of_document hdocument
  next => cases h

end MovePack.Json
