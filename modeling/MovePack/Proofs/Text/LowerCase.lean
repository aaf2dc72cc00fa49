/-
# Lower case

Characters that lower case leaves as they are make up every lowered text, so that lowering a text a
second time changes nothing.  What is put behind a text changes its lower case only where the text
ends in a capital sigma: that becomes a final sigma if no letter follows, and a small sigma else.
-/
import Mathlib.Data.List.Basic
import Mathlib.Tactic.SplitIfs
import MovePack.Proofs.Text.CodePoint
import MovePack.Text.LowerCase

namespace MovePack

/-! ## Runs of characters -/

namespace CaseRun

variable {run other : CaseRun} {n : Nat}

/-- The run maps the character with the number. -/
def Maps (run : CaseRun) (n : Nat) : Prop :=
  run.first ≤ n ∧ n ≤ run.last ∧ (n - run.first) % run.step = 0

instance : Decidable (run.Maps n) := inferInstanceAs (Decidable (_ ∧ _))

/-- The number that the run leads to. -/
def lead (run : CaseRun) (n : Nat) : Nat := (n + run.offset).toNat

/-- No character that the run leads to is mapped by the other run: they lie apart, or they are all
at odd distances from the characters of the other run, which are at even distances. -/
def leadsBeside (run other : CaseRun) : Bool :=
  Nat.blt (run.lead run.last) other.first || Nat.blt other.last (run.lead run.first) ||
    Nat.beq other.step 2 && (Nat.beq run.step 2 || Nat.beq run.first run.last) &&
      Nat.beq ((run.lead run.first + other.first) % 2) 1

lemma not_maps_lead (hnonneg : 0 ≤ run.first + run.offset) (h : run.leadsBeside other = true)
    (hn : run.Maps n) : ¬ other.Maps (run.lead n) := by
  obtain ⟨first, last, step, offset⟩ := run
  obtain ⟨first', last', step', offset'⟩ := other
  simp only [leadsBeside, lead, Bool.or_eq_true, Bool.and_eq_true, Nat.blt_eq, Nat.beq_eq, Maps]
    at hnonneg h hn ⊢
  obtain (h | h) | ⟨⟨rfl, rfl | rfl⟩, h⟩ := h <;> omega

lemma nonneg_of_mem (h : run ∈ lowerCaseRuns) : 0 ≤ run.first + run.offset := by
  have hall : ∀ run ∈ lowerCaseRuns, 0 ≤ run.first + run.offset := by
    decide +kernel
  exact hall run h

/-- Small letters are mapped no further. -/
lemma not_maps_lead_of_mem (h : run ∈ lowerCaseRuns) (hother : other ∈ lowerCaseRuns)
    (hn : run.Maps n) : ¬ other.Maps (run.lead n) := by
  have hall : (lowerCaseRuns.all fun run => lowerCaseRuns.all run.leadsBeside) = true := by
    decide +kernel
  have hbeside := List.all_eq_true.mp (List.all_eq_true.mp hall run h) other hother
  exact not_maps_lead (nonneg_of_mem h) hbeside hn

/-- No letter becomes a capital I with a dot. -/
lemma lead_ne_dotted (h : run ∈ lowerCaseRuns) (hn : run.Maps n) : run.lead n ≠ 0x130 := by
  have hall : (lowerCaseRuns.all fun run => run.leadsBeside ⟨0x130, 0x130, 1, 0⟩) = true := by
    decide +kernel
  have hapart := not_maps_lead (nonneg_of_mem h) (List.all_eq_true.mp hall run h) hn
  intro heq
  rw [heq] at hapart
  exact hapart (by decide)

/-- No letter becomes a capital sigma, as that is mapped itself. -/
lemma lead_ne_sigma (h : run ∈ lowerCaseRuns) (hn : run.Maps n) : run.lead n ≠ 0x3A3 := by
  obtain ⟨other, hother, hmaps⟩ : ∃ other ∈ lowerCaseRuns, other.Maps 0x3A3 := by
    decide +kernel
  intro heq
  have hapart := not_maps_lead_of_mem h hother hn
  rw [heq] at hapart
  exact hapart hmaps

end CaseRun

/-! ## Characters -/

namespace CodePoint

variable {c : CodePoint}

/-- The character does not keep apart the letters on both sides of it. -/
def isCaseIgnorable (c : CodePoint) : Bool := CharacterRange.contains c.toNat caseIgnorableRanges

/-- The character is a letter with case. -/
def isCased (c : CodePoint) : Bool := CharacterRange.contains c.toNat casedRanges

/-- The character stays as it is in lower case, wherever it stands. -/
structure IsLowered (c : CodePoint) : Prop where
  ne_dotted : c ≠ .scalar '\u0130'
  ne_sigma : c ≠ .scalar '\u03A3'
  toLower_eq : c.toLower = c

instance : Decidable c.IsLowered :=
  decidable_of_iff (c ≠ .scalar '\u0130' ∧ c ≠ .scalar '\u03A3' ∧ c.toLower = c)
    ⟨fun h => ⟨h.1, h.2.1, h.2.2⟩, fun h => ⟨h.1, h.2, h.3⟩⟩

lemma toLower_eq_self (h : ∀ run ∈ lowerCaseRuns, ¬ run.Maps c.toNat) : c.toLower = c := by
  have hnone : lowerCaseRuns.find? (fun run => run.first ≤ c.toNat ∧ c.toNat ≤ run.last ∧
      (c.toNat - run.first) % run.step = 0) = none := by
    simpa [CaseRun.Maps] using h
  rw [toLower, hnone]

/-- The lower-case form of a character is the character itself or is found by a run. -/
lemma toLower_eq_or (c : CodePoint) :
    c.toLower = c ∨
      ∃ run ∈ lowerCaseRuns, run.Maps c.toNat ∧ c.toLower.toNat = run.lead c.toNat := by
  rw [toLower]
  split
  next => exact .inl rfl
  next run hrun =>
    have hmaps : run.Maps c.toNat := by simpa [CaseRun.Maps] using List.find?_some hrun
    cases hfound : ofNat? (c.toNat + run.offset).toNat with
    | none => exact .inl rfl
    | some d => exact .inr ⟨run, List.mem_of_find?_eq_some hrun, hmaps, toNat_of_ofNat? hfound⟩

lemma isLowered_toLower (hdotted : c ≠ .scalar '\u0130') (hsigma : c ≠ .scalar '\u03A3') :
    c.toLower.IsLowered := by
  obtain h | ⟨run, hrun, hmaps, hnumber⟩ := toLower_eq_or c
  · rw [h]
    exact ⟨hdotted, hsigma, h⟩
  · have hself : c.toLower.toLower = c.toLower := by
      refine toLower_eq_self fun other hother => ?_
      rw [hnumber]
      exact CaseRun.not_maps_lead_of_mem hrun hother hmaps
    refine ⟨fun heq => ?_, fun heq => ?_, hself⟩
    · exact CaseRun.lead_ne_dotted hrun hmaps (by rw [← hnumber, heq]; rfl)
    · exact CaseRun.lead_ne_sigma hrun hmaps (by rw [← hnumber, heq]; rfl)

end CodePoint

/-! ## Lowering twice -/

namespace Text

variable {before t u : Text} {c : CodePoint}

/-- The lower case of a character between others, of which those before it come nearest first. -/
def loweredBetween (before : Text) (c : CodePoint) (after : Text) : Text :=
  if c = .scalar '\u0130' then ['\u0069', '\u0307']
  else if c = .scalar '\u03A3' then
    if nearestIsCased before && !nearestIsCased after then ['\u03C2'] else ['\u03C3']
  else [c.toLower]

lemma toLowerAfter_cons (before : Text) (c : CodePoint) (t : Text) :
    toLowerAfter before (c :: t) = loweredBetween before c t ++ toLowerAfter (c :: before) t := rfl

lemma isLowered_of_mem_loweredBetween {after : Text} {d : CodePoint}
    (h : d ∈ loweredBetween before c after) : d.IsLowered := by
  have hfixed : ∀ d ∈ (['\u0069', '\u0307', '\u03C2', '\u03C3'] : Text), d.IsLowered := by
    decide +kernel
  rw [loweredBetween] at h
  split_ifs at h with hdotted hsigma
  · exact hfixed d (List.mem_append_left [_, _] h)
  · exact hfixed d (List.mem_append_right [_, _] (List.mem_append_left [_] h))
  · exact hfixed d (List.mem_append_right [_, _, _] h)
  · rw [List.mem_singleton.mp h]
    exact CodePoint.isLowered_toLower hdotted hsigma

/-- A lowered text has none but lowered characters. -/
lemma isLowered_of_mem_toLowerAfter {d : CodePoint} (h : d ∈ toLowerAfter before t) :
    d.IsLowered := by
  induction t generalizing before with
  | nil => cases h
  | cons c t ih =>
    rw [toLowerAfter_cons] at h
    obtain h | h := List.mem_append.mp h
    · exact isLowered_of_mem_loweredBetween h
    · exact ih h

lemma loweredBetween_of_isLowered (h : c.IsLowered) (before after : Text) :
    loweredBetween before c after = [c] := by
  rw [loweredBetween, if_neg h.ne_dotted, if_neg h.ne_sigma, h.toLower_eq]

lemma toLowerAfter_of_isLowered (h : ∀ c ∈ t, c.IsLowered) (before : Text) :
    toLowerAfter before t = t := by
  induction t generalizing before with
  | nil => rfl
  | cons c t ih =>
    obtain ⟨hc, ht⟩ := List.forall_mem_cons.mp h
    rw [toLowerAfter_cons, loweredBetween_of_isLowered hc, ih ht, List.singleton_append]

lemma toLower_of_isLowered (h : ∀ c ∈ t, c.IsLowered) : toLower t = t :=
  toLowerAfter_of_isLowered h []

theorem toLower_toLower (t : Text) : toLower (toLower t) = toLower t :=
  toLower_of_isLowered fun _ => isLowered_of_mem_toLowerAfter

/-! ## Lowering in front of an ending -/

/-- In front of a cased letter only case-ignorable characters are passed over. -/
lemma nearestIsCased_cons (c : CodePoint) (t : Text) :
    nearestIsCased (c :: t) = if c.isCaseIgnorable then nearestIsCased t else c.isCased := by
  rw [nearestIsCased, nearestIsCased]
  by_cases h : c.isCaseIgnorable = true
  · have hdrop : (c :: t).dropWhile (fun c => CharacterRange.contains c.toNat caseIgnorableRanges) =
        t.dropWhile fun c => CharacterRange.contains c.toNat caseIgnorableRanges :=
      List.dropWhile_cons_of_pos h
    rw [hdrop, if_pos h]
  · have hdrop : (c :: t).dropWhile (fun c => CharacterRange.contains c.toNat caseIgnorableRanges) =
        c :: t := List.dropWhile_cons_of_neg h
    rw [hdrop, if_neg h]
    rfl

lemma nearestIsCased_append (t u : Text) :
    nearestIsCased (t ++ u) =
      if t.all CodePoint.isCaseIgnorable then nearestIsCased u else nearestIsCased t := by
  induction t with
  | nil => rfl
  | cons c t ih =>
    rw [List.cons_append, nearestIsCased_cons, nearestIsCased_cons, ih, List.all_cons]
    cases c.isCaseIgnorable <;> simp

/-- Behind the characters before it, of which the nearest comes first, the text ends in a capital
sigma: that stands behind a cased letter, and nothing but case-ignorable characters follows. -/
def EndsInSigma (before t : Text) : Prop :=
  ∃ front back, t = front ++ .scalar '\u03A3' :: back ∧
    nearestIsCased (front.reverse ++ before) = true ∧ back.all CodePoint.isCaseIgnorable = true

lemma not_endsInSigma_nil (before : Text) : ¬ EndsInSigma before [] := by
  rintro ⟨_ | _, back, heq, -⟩ <;> cases heq

lemma endsInSigma_cons : EndsInSigma before (c :: t) ↔
    (c = .scalar '\u03A3' ∧ nearestIsCased before = true ∧
      t.all CodePoint.isCaseIgnorable = true) ∨ EndsInSigma (c :: before) t := by
  constructor
  · rintro ⟨_ | ⟨x, front⟩, back, heq, hbefore, hback⟩ <;> cases heq
    · exact .inl ⟨rfl, hbefore, hback⟩
    · refine .inr ⟨front, back, rfl, ?_, hback⟩
      rwa [List.reverse_cons, List.append_assoc] at hbefore
  · rintro (⟨rfl, hbefore, hback⟩ | ⟨front, back, rfl, hbefore, hback⟩)
    · exact ⟨[], t, rfl, hbefore, hback⟩
    · refine ⟨c :: front, back, rfl, ?_, hback⟩
      rwa [List.reverse_cons, List.append_assoc]

instance decidableEndsInSigma : (before t : Text) → Decidable (EndsInSigma before t)
  | before, [] => .isFalse (not_endsInSigma_nil before)
  | before, c :: t =>
    have := decidableEndsInSigma (c :: before) t
    decidable_of_iff _ endsInSigma_cons.symm

/-- An ending that has a letter changes the lower case of a final sigma, and of nothing else. -/
lemma loweredBetween_append_eq_iff (hu : nearestIsCased u = true) :
    loweredBetween before c (t ++ u) = loweredBetween before c t ↔
      ¬ (c = .scalar '\u03A3' ∧ nearestIsCased before = true ∧
        t.all CodePoint.isCaseIgnorable = true) := by
  rw [loweredBetween, loweredBetween]
  by_cases hsigma : c = .scalar '\u03A3'
  · subst hsigma
    have hdotted : CodePoint.scalar '\u03A3' ≠ .scalar '\u0130' := by decide
    simp only [if_neg hdotted, if_pos, true_and, nearestIsCased_append, hu]
    by_cases hall : t.all CodePoint.isCaseIgnorable = true
    · have ht := nearestIsCased_append t []
      rw [List.append_nil, if_pos hall] at ht
      rw [if_pos hall, ht]
      cases nearestIsCased before <;> simp [hall, nearestIsCased]
    · simp [hall]
  · simp only [hsigma, if_false, false_and, not_false_eq_true]

lemma length_loweredBetween (before : Text) (c : CodePoint) (after after' : Text) :
    (loweredBetween before c after).length = (loweredBetween before c after').length := by
  rw [loweredBetween, loweredBetween]
  split_ifs <;> rfl

lemma toLowerAfter_append_eq_iff (hu : nearestIsCased u = true) (hlowered : ∀ c ∈ u, c.IsLowered) :
    toLowerAfter before (t ++ u) = toLowerAfter before t ++ u ↔ ¬ EndsInSigma before t := by
  induction t generalizing before with
  | nil =>
    exact iff_of_true (toLowerAfter_of_isLowered hlowered before) (not_endsInSigma_nil before)
  | cons c t ih =>
    rw [List.cons_append, toLowerAfter_cons, toLowerAfter_cons, List.append_assoc, endsInSigma_cons,
      not_or, ← ih, ← loweredBetween_append_eq_iff hu]
    constructor
    · exact fun h => List.append_inj h (length_loweredBetween ..)
    · rintro ⟨hfirst, hothers⟩
      rw [hfirst, hothers]

/-- **Lower case goes on behind a text.**  An ending of small characters with a letter among them is
kept behind the lower case of any text, but for a text that ends in a capital sigma, which is no
longer final in front of it. -/
theorem toLower_append_eq_iff (hu : nearestIsCased u = true) (hlowered : ∀ c ∈ u, c.IsLowered) :
    toLower (t ++ u) = toLower t ++ u ↔ ¬ EndsInSigma [] t :=
  toLowerAfter_append_eq_iff hu hlowered

/-- Small characters behind a text stay there. -/
lemma exists_toLower_append (t : Text) (hlowered : ∀ c ∈ u, c.IsLowered) :
    ∃ front, toLower (t ++ u) = front ++ u := by
  have hafter : ∀ before, ∃ front, toLowerAfter before (t ++ u) = front ++ u := by
    induction t with
    | nil => exact fun before => ⟨[], toLowerAfter_of_isLowered hlowered before⟩
    | cons c t ih =>
      intro before
      obtain ⟨front, hfront⟩ := ih (c :: before)
      exact ⟨loweredBetween before c (t ++ u) ++ front, by
        rw [List.cons_append, toLowerAfter_cons, hfront, List.append_assoc]⟩
  exact hafter []

end Text

end MovePack
