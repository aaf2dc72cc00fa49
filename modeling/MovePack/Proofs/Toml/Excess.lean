/-
# Documents with too much of something

A document can be refused for having too much of something although it keeps the rules of the
format: digits of an integer, arrays and inline tables inside of each other, or parts of a key.
Each of these takes characters of its own, digits, brackets and dots.  So a text that has few of
them is read to a table or breaks the rules, however long it is.
-/
import MovePack.Proofs.Toml.Scalar
import MovePack.Toml.Reader

namespace MovePack.Toml

variable {α : Type} {t rest : Text}

/-! ## Tables -/

/-- There is a result, or the text is malformed. -/
abbrev Answers (x : Except Fault α) : Prop := Settles (fun _ => True) x

namespace Members

lemma alter_answers {key : Text} {change : Option Node → Except Fault Node}
    (h : ∀ node, Answers (change node)) (members : Members) :
    Answers (members.alter key change) := by
  induction members with
  | nil => exact (h none).bind fun _ _ => .ok trivial
  | cons member members ih =>
    obtain ⟨k, node⟩ := member
    rw [alter]
    split_ifs
    · exact (h (some node)).bind fun _ _ => .ok trivial
    · exact ih.bind fun _ _ => .ok trivial

lemma within_answers {change : Members → Except Fault Members} (h : ∀ m, Answers (change m))
    (path : List Text) (members : Members) : Answers (within path change members) := by
  induction path generalizing members with
  | nil => exact h members
  | cons key path ih =>
    rw [within]
    refine alter_answers (fun node => ?_) members
    match node with
    | none | some (.table _ _) | some (.tables _ _) => exact (ih _).map fun _ _ => trivial
    | some (.value _) => exact .error rfl

lemma declare_answers (path : List Text) (key : Text) (members : Members) :
    Answers (members.declare path key) := by
  refine within_answers (fun inner => alter_answers (fun node => ?_) inner) path members
  split
  next => exact .ok trivial
  next => exact .ok trivial
  next => exact .error rfl

lemma append_answers (path : List Text) (key : Text) (members : Members) :
    Answers (members.append path key) := by
  refine within_answers (fun inner => alter_answers (fun node => ?_) inner) path members
  split
  next => exact .ok trivial
  next => exact .ok trivial
  next => exact .error rfl

lemma assign_answers (path : List Text) (key : Text) (v : Value) (members : Members) :
    Answers (members.assign path key v) := by
  induction path generalizing members with
  | nil =>
    rw [assign]
    refine alter_answers (fun node => ?_) members
    cases node with
    | none => exact .ok trivial
    | some _ => exact .error rfl
  | cons part path ih =>
    rw [assign]
    refine alter_answers (fun node => ?_) members
    split
    next => exact (ih []).map fun _ _ => trivial
    next => exact .error rfl
    next => exact (ih _).map fun _ _ => trivial
    next => exact .error rfl

end Members

/-! ## Documents -/

/-- The character opens an array or an inline table. -/
def isOpening (c : CodePoint) : Bool := c = .scalar '[' || c = .scalar '\x7b'

/-- The character stands between the parts of a key. -/
def isDot (c : CodePoint) : Bool := c = .scalar '.'

/-- A text inside of `depth` arrays and inline tables has few brackets, dots and digits. -/
structure IsModest (depth : Nat) (t : Text) : Prop where
  /-- Its brackets do not open too many arrays and inline tables. -/
  opening : depth + t.countP isOpening ≤ maxNesting
  /-- Its dots do not stand between too many parts of a key. -/
  dots : t.countP isDot < maxKeyParts
  /-- Its digits are not too many for an integer. -/
  digits : t.countP (isDigitIn 10) ≤ maxDigits

namespace IsModest

variable {depth : Nat}

lemma of_sublist (h : IsModest depth t) (hrest : rest.Sublist t) : IsModest depth rest where
  opening := by
    have hle : rest.countP isOpening ≤ t.countP isOpening := hrest.countP_le
    have := h.opening
    omega
  dots := hrest.countP_le.trans_lt h.dots
  digits := hrest.countP_le.trans h.digits

lemma of_suffix (h : IsModest depth t) (hrest : rest <:+ t) : IsModest depth rest :=
  h.of_sublist hrest.sublist

/-- The depth is not too large. -/
lemma not_lt (h : IsModest depth t) : ¬ maxNesting < depth := by
  have := h.opening
  omega

/-- The text after a bracket is inside of one more array or inline table. -/
lemma of_opening {c : CodePoint} (h : IsModest depth (c :: t)) (hc : isOpening c = true) :
    IsModest (depth + 1) t where
  opening := by
    have := h.opening
    rw [List.countP_cons_of_pos hc] at this
    omega
  dots := (h.of_suffix (List.suffix_cons c t)).dots
  digits := (h.of_suffix (List.suffix_cons c t)).digits

end IsModest

lemma keyPart_leaves (t : Text) : Leaves t (keyPart t) := by
  rw [keyPart.eq_def]
  split
  next after => exact (basicString_leaves after).of_suffix (List.suffix_cons _ after)
  next after => exact (literalString_leaves after).of_suffix (List.suffix_cons _ after)
  next =>
    split
    next => exact .error rfl
    next => exact .ok (List.drop_suffix _ t)

/-- Every part but the first one of a key follows a dot. -/
lemma keyParts_settles {room : Nat} (h : t.countP isDot < room) :
    Settles (fun r => r.2.2 <:+ t) (keyParts room t) := by
  induction room generalizing t with
  | zero => exact absurd h (Nat.not_lt_zero _)
  | succ room ih =>
    rw [keyParts]
    refine (keyPart_leaves t).bind fun r hr => ?_
    have hspace := (skipSpace_suffix r.2).trans hr
    simp only
    split
    next after hdot =>
      rw [hdot] at hspace
      have hafter := (skipSpace_suffix after).trans ((List.suffix_cons _ after).trans hspace)
      -- the dot that was passed makes up for the room that the part before it took
      have hcount : (skipSpace after).countP isDot < room := by
        have hle : (skipSpace after).countP isDot ≤ after.countP isDot :=
          (skipSpace_suffix after).sublist.countP_le
        have hle' : (CodePoint.scalar '.' :: after).countP isDot ≤ t.countP isDot :=
          hspace.sublist.countP_le
        rw [List.countP_cons_of_pos (by decide)] at hle'
        omega
      exact (ih hcount).bind fun r' hr' => .ok (hr'.trans hafter)
    next => exact .ok hspace

lemma key_settles (h : t.countP isDot < maxKeyParts) :
    Settles (fun r => r.2.2 <:+ t) (key t) := keyParts_settles h

lemma skipComment_settles (t : Text) : Settles (· <:+ t) (skipComment t) := by
  rw [skipComment.eq_def]
  split
  next after =>
    simp only
    split_ifs
    · exact .error rfl
    · exact .ok ((List.drop_suffix _ after).trans (List.suffix_cons _ after))
  next => exact .ok List.suffix_rfl

lemma skipLines_settles (fuel : Nat) (t : Text) : Settles (· <:+ t) (skipLines fuel t) := by
  induction fuel generalizing t with
  | zero => exact .ok List.suffix_rfl
  | succ fuel ih =>
    have hspace := List.dropWhile_suffix (l := t) isSpaceOrNewline
    rw [skipLines]
    split
    next after hhash =>
      rw [hhash] at hspace
      refine (skipComment_settles _).bind fun r hr => ?_
      exact (ih r).mono fun r' hr' => (hr'.trans hr).trans hspace
    next => exact .ok hspace

lemma skipBetween_settles (t : Text) : Settles (· <:+ t) (skipBetween t) := by
  have hspace := List.dropWhile_suffix (l := t) isSpaceOrNewline
  rw [skipBetween]
  split
  next after hhash =>
    rw [hhash] at hspace
    exact (skipLines_settles _ _).mono fun r hr => hr.trans hspace
  next => exact .ok hspace

/-- With the given fuel the readers of values, elements and members leave an end of the text. -/
def ReadsWithin (fuel : Nat) : Prop :=
  ∀ {depth : Nat} {t : Text}, IsModest depth t →
    Leaves t (value fuel depth t) ∧ Leaves t (elements fuel depth t) ∧
      ∀ before, Leaves t (inlineMembers fuel depth before t)

section Step

variable {fuel depth : Nat}

/-- A bracket makes up for the depth inside of it. -/
lemma value_leaves (ih : ReadsWithin fuel) (h : IsModest depth t) :
    Leaves t (value (fuel + 1) depth t) := by
  rw [value.eq_def, if_neg h.not_lt]
  simp only
  split
  next after =>
    refine (skipBetween_settles after).bind fun r hr => ?_
    refine (ih ((h.of_opening (by decide)).of_suffix hr)).2.1.bind fun r' hr' => .ok ?_
    exact (hr'.trans hr).trans (List.suffix_cons _ after)
  next after =>
    refine (skipBetween_settles after).bind fun r hr => ?_
    refine ((ih ((h.of_opening (by decide)).of_suffix hr)).2.2 []).bind fun r' hr' => .ok ?_
    exact (hr'.trans hr).trans (List.suffix_cons _ after)
  next => exact scalar_leaves h.digits

lemma elements_leaves (ih : ReadsWithin fuel) (h : IsModest depth t) :
    Leaves t (elements (fuel + 1) depth t) := by
  rw [elements.eq_def]
  simp only
  split
  next after => exact .ok (List.suffix_cons _ after)
  next =>
    refine (ih h).1.bind fun r hr => ?_
    refine (skipBetween_settles r.2).bind fun r' hr' => ?_
    have hbehind := hr'.trans hr
    split
    next after => exact .ok ((List.suffix_cons _ after).trans hbehind)
    next after =>
      refine (skipBetween_settles after).bind fun r'' hr'' => ?_
      have hnext := (hr''.trans (List.suffix_cons _ after)).trans hbehind
      exact (ih (h.of_suffix hnext)).2.1.bind fun _ hlast => .ok (hlast.trans hnext)
    next => exact .error rfl

lemma inlineMembers_leaves (ih : ReadsWithin fuel) (h : IsModest depth t) (before : Members) :
    Leaves t (inlineMembers (fuel + 1) depth before t) := by
  rw [inlineMembers.eq_def]
  simp only
  split
  next after => exact .ok (List.suffix_cons _ after)
  next =>
    refine (key_settles h.dots).bind fun ⟨path, last, rest⟩ hr => ?_
    simp only at hr ⊢
    split
    next after =>
      have hv := ((skipSpace_suffix after).trans (List.suffix_cons _ after)).trans hr
      refine (ih (h.of_suffix hv)).1.bind fun r' hr' => ?_
      refine (Members.assign_answers path last r'.1 before).bind fun known _ => ?_
      refine (skipBetween_settles r'.2).bind fun r'' hr'' => ?_
      have hbehind := (hr''.trans hr').trans hv
      split
      next after' => exact .ok ((List.suffix_cons _ after').trans hbehind)
      next after' =>
        refine (skipBetween_settles after').bind fun r₃ hr₃ => ?_
        have hnext := (hr₃.trans (List.suffix_cons _ after')).trans hbehind
        exact ((ih (h.of_suffix hnext)).2.2 known).of_suffix hnext
      next => exact .error rfl
    next => exact .error rfl

end Step

lemma readsWithin (fuel : Nat) : ReadsWithin fuel := by
  induction fuel with
  | zero =>
    -- without fuel a reader takes the text for malformed
    intro depth t h
    rw [value, if_neg h.not_lt, elements]
    exact ⟨.error rfl, .error rfl, fun before => by rw [inlineMembers]; exact .error rfl⟩
  | succ fuel ih =>
    exact fun h => ⟨value_leaves ih h, elements_leaves ih h, inlineMembers_leaves ih h⟩

lemma statement_leaves (draft : Draft) (h : IsModest 0 t) : Leaves t (draft.statement t) := by
  rw [Draft.statement.eq_def]
  split
  next after =>
    have hspace : skipSpace after <:+ .scalar '[' :: .scalar '[' :: after :=
      (skipSpace_suffix after).trans ((List.suffix_cons _ after).trans (List.suffix_cons _ _))
    refine (key_settles (h.of_suffix hspace).dots).bind fun ⟨path, last, rest⟩ hr => ?_
    simp only at hr ⊢
    split
    next after' =>
      refine (Members.append_answers path last draft.members).bind fun _ _ => .ok ?_
      exact ((List.suffix_cons _ after').trans (List.suffix_cons _ _)).trans (hr.trans hspace)
    next => exact .error rfl
  next after _ =>
    have hspace : skipSpace after <:+ .scalar '[' :: after :=
      (skipSpace_suffix after).trans (List.suffix_cons _ after)
    refine (key_settles (h.of_suffix hspace).dots).bind fun ⟨path, last, rest⟩ hr => ?_
    simp only at hr ⊢
    split
    next after' =>
      refine (Members.declare_answers path last draft.members).bind fun _ _ => .ok ?_
      exact (List.suffix_cons _ after').trans (hr.trans hspace)
    next => exact .error rfl
  next =>
    refine (key_settles h.dots).bind fun ⟨path, last, rest⟩ hr => ?_
    simp only at hr ⊢
    split
    next after =>
      have hv := ((skipSpace_suffix after).trans (List.suffix_cons _ after)).trans hr
      refine (readsWithin _ (h.of_suffix hv)).1.bind fun r' hr' => ?_
      have hassigned := Members.within_answers (Members.assign_answers path last r'.1)
        draft.header draft.members
      exact hassigned.bind fun _ _ => .ok (hr'.trans hv)
    next => exact .error rfl

/-- What follows the item of a line is a comment at most, and then the lines after it. -/
lemma lineEnd_answers (draft : Draft) {rest : Text} {fuel : Nat}
    (h : ∀ {rest'}, rest' <:+ rest → Answers (draft.lines fuel rest')) :
    Answers (do
      match ← skipComment (skipSpace rest) with
      | [] => return draft
      | .scalar '\n' :: rest => draft.lines fuel rest
      | _ => throw .malformed) := by
  refine (skipComment_settles (skipSpace rest)).bind fun r hr => ?_
  split
  next => exact .ok trivial
  next after => exact h ((List.suffix_cons _ after).trans (hr.trans (skipSpace_suffix rest)))
  next => exact .error rfl

/-- After each line the text that is left is an end of the document. -/
lemma lines_answers (draft : Draft) (fuel : Nat) (h : IsModest 0 t) :
    Answers (draft.lines fuel t) := by
  induction fuel generalizing draft t with
  | zero => exact .error rfl
  | succ fuel ih =>
    have hspace := skipSpace_suffix t
    have hnext : ∀ r : Draft × Text, r.2 <:+ t → ∀ {rest'}, rest' <:+ r.2 →
        Answers (r.1.lines fuel rest') :=
      fun r hr _ hrest => ih r.1 (h.of_suffix (hrest.trans hr))
    rw [Draft.lines]
    simp only
    split
    next => exact lineEnd_answers _ (hnext (draft, _) hspace)
    next => exact lineEnd_answers _ (hnext (draft, _) hspace)
    next => exact lineEnd_answers _ (hnext (draft, _) hspace)
    next =>
      exact ((statement_leaves draft (h.of_suffix hspace)).of_suffix hspace).bind fun r hr =>
        lineEnd_answers _ (hnext r hr)

lemma joinLineEnds_sublist (t : Text) : (joinLineEnds t).Sublist t := by
  fun_induction joinLineEnds t with
  | case1 rest ih => exact (ih.cons_cons _).cons _
  | case2 c rest _ ih => exact ih.cons_cons c
  | case3 => exact List.Sublist.refl []

/-- A document with few brackets, dots and digits is read to a table, or it breaks the rules of the
format. -/
theorem ofDocument_of_isModest (h : IsModest 0 t) :
    (∃ table, Value.ofDocument t = .ok table) ∨ Value.ofDocument t = .error .malformed := by
  have hlines := lines_answers {} (t.length + 1) (h.of_sublist (joinLineEnds_sublist t))
  rw [Value.ofDocument]
  generalize Draft.lines {} (t.length + 1) (joinLineEnds t) = drafted at hlines
  cases hlines with
  | ok => exact .inl ⟨_, rfl⟩
  | error h => exact .inr (congrArg Except.error h)

end MovePack.Toml
