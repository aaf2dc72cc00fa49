/-
# What is left behind a TOML value

The readers of strings, dates and numbers take a beginning of the text and leave what follows it, so
that what they leave is an end of the text.  Of what a document can have too much of, they meet only
the digits of an integer, and each of these is a character of the text.
-/
import Mathlib.Data.List.Infix
import MovePack.Proofs.Except
import MovePack.Proofs.Text.Hex
import MovePack.Toml.Scalar

namespace MovePack.Toml

variable {α : Type} {t rest : Text}

/-- The outcome of a reader is a result with the property, or the text is malformed. -/
abbrev Settles (P : α → Prop) (x : Except Fault α) : Prop := x.Settles P (· = .malformed)

/-- What a reader leaves of the text is an end of it, unless the text is malformed. -/
abbrev Leaves (t : Text) (x : Except Fault (α × Text)) : Prop := Settles (fun r => r.2 <:+ t) x

lemma Leaves.of_suffix {t' : Text} {x : Except Fault (α × Text)} (hx : Leaves t x) (h : t <:+ t') :
    Leaves t' x :=
  hx.mono fun _ hrest => hrest.trans h

/-! ## Strings -/

lemma skipSpace_suffix (t : Text) : skipSpace t <:+ t := List.dropWhile_suffix _

lemma suffix_of_splitQuotes? {quote : CodePoint} {before : Text}
    (h : splitQuotes? quote t = some (before, rest)) : rest <:+ t := by
  induction t generalizing before with
  | nil => cases h
  | cons c t ih =>
    rw [splitQuotes?] at h
    split_ifs at h
    · cases h
      exact (List.drop_suffix 2 t).trans (List.suffix_cons c t)
    · obtain ⟨⟨before, after⟩, hsplit, heq⟩ := Option.map_eq_some_iff.mp h
      cases heq
      exact (ih hsplit).trans (List.suffix_cons c t)

lemma lateQuotes_suffix (quote : CodePoint) (t : Text) : (lateQuotes quote t).2 <:+ t := by
  fun_cases lateQuotes quote t
  all_goals simp [List.suffix_cons_iff]

lemma dropNewline_suffix (t : Text) : dropNewline t <:+ t := by
  fun_cases dropNewline t
  · exact List.suffix_cons _ _
  · exact List.suffix_rfl

lemma numberedCharacter_leaves (count : Nat) (t : Text) : Leaves t (numberedCharacter count t) := by
  rw [numberedCharacter]
  split
  next => exact .error rfl
  next =>
    split_ifs
    · exact .error rfl
    · split
      next => exact .ok (List.drop_suffix count t)
      next => exact .error rfl

lemma escape_leaves (manyLines : Bool) (t : Text) : Leaves t (escape manyLines t) := by
  cases t with
  | nil => exact .error rfl
  | cons mark t =>
    have hnumbered : ∀ count, Leaves (mark :: t) (numberedCharacter count t) := fun count =>
      (numberedCharacter_leaves count t).of_suffix (List.suffix_cons mark t)
    rw [escape]
    split_ifs
    · split
      next after hspace =>
        refine .ok ((List.dropWhile_suffix _).trans ?_)
        exact (List.suffix_cons _ after).trans (hspace ▸ skipSpace_suffix (mark :: t))
      next => exact .error rfl
    · exact hnumbered 2
    · exact hnumbered 4
    · exact hnumbered 8
    · split
      next => exact .ok (List.suffix_cons mark t)
      next => exact .error rfl

lemma basicBody_leaves (manyLines : Bool) (fuel : Nat) (t : Text) :
    Leaves t (basicBody manyLines fuel t) := by
  induction fuel generalizing t with
  | zero => exact .error rfl
  | succ fuel ih =>
    cases t with
    | nil => exact .error rfl
    | cons c t =>
      have hrest := List.suffix_cons c t
      rw [basicBody]
      split_ifs
      · exact .ok hrest
      · exact .ok ((List.drop_suffix 2 t).trans hrest)
      · refine (escape_leaves manyLines t).bind fun r hr => ?_
        exact (ih r.2).bind fun r' hr' => .ok ((hr'.trans hr).trans hrest)
      · exact .error rfl
      · exact (ih t).bind fun r hr => .ok (hr.trans hrest)

lemma basicString_leaves (t : Text) : Leaves t (basicString t) := basicBody_leaves false _ t

lemma literalString_leaves (t : Text) : Leaves t (literalString t) := by
  rw [literalString]
  split
  next => exact .error rfl
  next c after hdrop =>
    split_ifs
    · exact .error rfl
    · exact .ok ((List.suffix_cons c after).trans (hdrop ▸ List.drop_suffix _ t))

lemma basicLines_leaves (t : Text) : Leaves t (basicLines t) := by
  refine (basicBody_leaves true _ (dropNewline t)).bind fun r hr => .ok ?_
  exact ((lateQuotes_suffix _ r.2).trans hr).trans (dropNewline_suffix t)

lemma literalLines_leaves (t : Text) : Leaves t (literalLines t) := by
  rw [literalLines]
  split
  next => exact .error rfl
  next body after hsplit =>
    split_ifs
    · exact .error rfl
    · exact .ok (((lateQuotes_suffix _ after).trans (suffix_of_splitQuotes? hsplit)).trans
        (dropNewline_suffix t))

lemma string?_leaves {outcome : Except Fault (Text × Text)} (h : string? t = some outcome) :
    Leaves t outcome := by
  have hdrop := fun count => List.drop_suffix count t
  rw [string?] at h
  split_ifs at h
  · exact Option.some.inj h ▸ (basicLines_leaves _).of_suffix (hdrop 3)
  · exact Option.some.inj h ▸ (literalLines_leaves _).of_suffix (hdrop 3)
  · exact Option.some.inj h ▸ (basicString_leaves _).of_suffix (hdrop 1)
  · exact Option.some.inj h ▸ (literalString_leaves _).of_suffix (hdrop 1)

/-! ## Dates and times -/

lemma suffix_of_after? {s : String} (h : after? s t = some rest) : rest <:+ t := by
  rw [Text.dropPrefix?_eq_some_iff.mp h]
  exact List.suffix_append _ _

lemma suffix_of_fixedNumber? {count low high n : Nat}
    (h : fixedNumber? count low high t = some (n, rest)) : rest <:+ t := by
  simp only [fixedNumber?, Option.bind_eq_bind, Option.bind_eq_some_iff] at h
  obtain ⟨digits, -, h⟩ := h
  split_ifs at h
  cases h
  exact List.drop_suffix count t

/-- A number behind a mark. -/
lemma suffix_of_after?_bind_fixedNumber? {s : String} {count low high n : Nat} {t' : Text}
    (h : after? s t = some t') (hn : fixedNumber? count low high t' = some (n, rest)) :
    rest <:+ t :=
  (suffix_of_fixedNumber? hn).trans (suffix_of_after? h)

lemma microseconds_suffix (t : Text) : (microseconds t).2 <:+ t := by
  fun_cases microseconds t
  · exact List.suffix_rfl
  · exact (List.drop_suffix _ _).trans (List.suffix_cons _ _)
  · exact List.suffix_rfl

lemma suffix_of_seconds? {second microsecond : Nat}
    (h : seconds? t = some (second, microsecond, rest)) : rest <:+ t := by
  simp only [seconds?, Option.bind_eq_bind, Option.bind_eq_some_iff, Option.some.injEq,
    Prod.mk.injEq] at h
  obtain ⟨t', hmark, ⟨_, after⟩, hsecond, -, hrest⟩ := h
  have hafter := microseconds_suffix after
  rw [hrest] at hafter
  exact hafter.trans (suffix_of_after?_bind_fixedNumber? hmark hsecond)

lemma suffix_of_time? {time : Time} (h : time? t = some (time, rest)) : rest <:+ t := by
  simp only [time?, Option.bind_eq_bind, Option.bind_eq_some_iff] at h
  obtain ⟨⟨hour, t₁⟩, hhour, t₂, hmark, ⟨minute, t₃⟩, hminute, h⟩ := h
  have hbefore : t₃ <:+ t :=
    (suffix_of_after?_bind_fixedNumber? hmark hminute).trans (suffix_of_fixedNumber? hhour)
  cases hseconds : seconds? t₃ with
  | none =>
    rw [hseconds] at h
    cases h
    exact hbefore
  | some found =>
    rw [hseconds] at h
    cases h
    exact (suffix_of_seconds? hseconds).trans hbefore

lemma suffix_of_span? {minutes : Nat} (h : offset?.span? t = some (minutes, rest)) :
    rest <:+ t := by
  simp only [offset?.span?, Option.bind_eq_bind, Option.bind_eq_some_iff] at h
  obtain ⟨⟨hours, t₁⟩, hhours, t₂, hmark, ⟨minutes, t₃⟩, hminutes, heq⟩ := h
  cases heq
  exact (suffix_of_after?_bind_fixedNumber? hmark hminutes).trans (suffix_of_fixedNumber? hhours)

lemma suffix_of_offset? {minutes : Int} (h : offset? t = some (minutes, rest)) : rest <:+ t := by
  have hspan : ∀ {sign : CodePoint} {t' : Text} (f : Nat → Int),
      (offset?.span? t').map (Prod.map f id) = some (minutes, rest) → rest <:+ sign :: t' := by
    intro sign t' f hmap
    obtain ⟨⟨n, after⟩, hn, heq⟩ := Option.map_eq_some_iff.mp hmap
    cases heq
    exact (suffix_of_span? hn).trans (List.suffix_cons sign t')
  rw [offset?.eq_def] at h
  split at h
  · cases h
    exact List.suffix_cons _ _
  · cases h
    exact List.suffix_cons _ _
  · exact hspan (fun n => n) h
  · exact hspan (fun n => -n) h
  · cases h

lemma suffix_of_date? {date : Date} (h : date? t = some (date, rest)) : rest <:+ t := by
  simp only [date?, Option.bind_eq_bind, Option.bind_eq_some_iff] at h
  obtain ⟨⟨year, t₁⟩, hyear, t₂, hmark, ⟨month, t₃⟩, hmonth, t₄, hmark', ⟨day, t₅⟩, hday, heq⟩ := h
  cases heq
  exact ((suffix_of_after?_bind_fixedNumber? hmark' hday).trans
    (suffix_of_after?_bind_fixedNumber? hmark hmonth)).trans (suffix_of_fixedNumber? hyear)

lemma suffix_of_timeAfterDate? {time : Time} (h : timeAfterDate? t = some (time, rest)) :
    rest <:+ t := by
  cases t with
  | nil => cases h
  | cons mark t =>
    rw [timeAfterDate?] at h
    split_ifs at h
    exact (suffix_of_time? h).trans (List.suffix_cons mark t)

lemma moment?_leaves {outcome : Except Fault (Value × Text)} (h : moment? t = some outcome) :
    Leaves t outcome := by
  simp only [moment?, Option.bind_eq_bind, Option.bind_eq_some_iff] at h
  obtain ⟨⟨date, t₁⟩, hdate, h⟩ := h
  have hbefore := suffix_of_date? hdate
  split_ifs at h
  · cases h
    exact .error rfl
  · split at h
    next =>
      cases h
      exact .ok hbefore
    next time t₂ htime =>
      have hbefore := (suffix_of_timeAfterDate? htime).trans hbefore
      split at h
      next =>
        cases h
        exact .ok hbefore
      next minutes t₃ hoffset =>
        cases h
        exact .ok ((suffix_of_offset? hoffset).trans hbefore)

/-! ## Numbers -/

/-- The character is a digit of the base. -/
def isDigitIn (base : Nat) (c : CodePoint) : Bool := (digitIn? base c).isSome

/-- The digits of a number are characters of the text, and what follows them is an end of it. -/
lemma digitsIn_spec (base : Nat) (t : Text) :
    ((digitsIn base t).1.length ≤ t.countP (isDigitIn base) ∧ (digitsIn base t).2 <:+ t) ∧
      ∀ mark, (digitsIn.digitsAfter base mark t).1.length ≤ t.countP (isDigitIn base) ∧
        (digitsIn.digitsAfter base mark t).2 <:+ mark :: t := by
  induction t with
  | nil => exact ⟨⟨Nat.zero_le _, List.suffix_rfl⟩, fun mark => ⟨Nat.zero_le _, List.suffix_rfl⟩⟩
  | cons c t ih =>
    obtain ⟨⟨hcount, hsuffix⟩, hafter⟩ := ih
    have hdigit : ∀ {digit}, digitIn? base c = some digit →
        (digit :: (digitsIn base t).1).length ≤ (c :: t).countP (isDigitIn base) := by
      intro digit hc
      rw [List.countP_cons_of_pos (by rw [isDigitIn, hc]; rfl), List.length_cons]
      exact Nat.succ_le_succ hcount
    constructor
    · rw [digitsIn]
      cases hc : digitIn? base c with
      | some digit => exact ⟨hdigit hc, hsuffix.trans (List.suffix_cons c t)⟩
      | none =>
        rw [List.countP_cons_of_neg (by rw [isDigitIn, hc]; decide)]
        simp only
        split_ifs
        · exact hafter c
        · exact ⟨Nat.zero_le _, List.suffix_rfl⟩
    · intro mark
      rw [digitsIn.digitsAfter]
      cases hc : digitIn? base c with
      | some digit =>
        exact ⟨hdigit hc, hsuffix.trans ((List.suffix_cons c t).trans (List.suffix_cons mark _))⟩
      | none => exact ⟨Nat.zero_le _, List.suffix_rfl⟩

lemma spec_of_digits? {base : Nat} {digits : List Nat} (h : digits? base t = some (digits, rest)) :
    digits.length ≤ t.countP (isDigitIn base) ∧ rest <:+ t := by
  simp only [digits?, Option.bind_eq_bind, Option.bind_eq_some_iff, Option.some.injEq] at h
  obtain ⟨-, -, h⟩ := h
  have hspec := (digitsIn_spec base t).1
  rw [h] at hspec
  exact hspec

lemma suffix_of_markedInteger? {v : Value} (h : markedInteger? t = some (v, rest)) :
    rest <:+ t := by
  simp only [markedInteger?, Option.bind_eq_bind, Option.bind_eq_some_iff] at h
  obtain ⟨⟨base, t₁⟩, hmark, ⟨digits, t₂⟩, hdigits, heq⟩ := h
  cases heq
  obtain ⟨⟨mark, base'⟩, -, hmark⟩ := List.exists_of_findSome?_eq_some hmark
  obtain ⟨t₁', hmark, heq⟩ := Option.map_eq_some_iff.mp hmark
  cases heq
  exact (spec_of_digits? hdigits).2.trans (suffix_of_after? hmark)

lemma sign_suffix (t : Text) : (sign t).2 <:+ t := by
  fun_cases sign t
  · exact List.suffix_cons _ _
  · exact List.suffix_cons _ _
  · exact List.suffix_rfl

lemma spec_of_whole? {digits : List Nat} (h : whole? t = some (digits, rest)) :
    digits.length ≤ t.countP (isDigitIn 10) ∧ rest <:+ t := by
  rw [whole?.eq_def] at h
  split at h
  next =>
    cases h
    refine ⟨?_, List.suffix_cons _ _⟩
    rw [List.countP_cons_of_pos (by decide), List.length_singleton]
    exact Nat.le_add_left 1 _
  next => exact spec_of_digits? h

lemma suffix_of_fraction? {digits : List Nat} (h : fraction? t = some (digits, rest)) :
    rest <:+ t := by
  simp only [fraction?, Option.bind_eq_bind, Option.bind_eq_some_iff] at h
  obtain ⟨t', hpoint, hdigits⟩ := h
  exact (spec_of_digits? hdigits).2.trans (suffix_of_after? hpoint)

lemma suffix_of_exponent? {power : Int} (h : exponent? t = some (power, rest)) : rest <:+ t := by
  cases t with
  | nil => cases h
  | cons mark t =>
    rw [exponent?] at h
    split_ifs at h
    obtain ⟨⟨digits, after⟩, hdigits, heq⟩ := Option.map_eq_some_iff.mp h
    cases heq
    exact ((spec_of_digits? hdigits).2.trans (sign_suffix t)).trans (List.suffix_cons mark t)

/-- A number with few digits is not too long. -/
lemma decimal?_leaves {outcome : Except Fault (Value × Text)} (h : decimal? t = some outcome)
    (hdigits : t.countP (isDigitIn 10) ≤ maxDigits) : Leaves t outcome := by
  simp only [decimal?, Option.bind_eq_bind, Option.bind_eq_some_iff] at h
  obtain ⟨⟨whole, t₁⟩, hwhole, h⟩ := h
  obtain ⟨hcount, hbefore⟩ := spec_of_whole? hwhole
  have hsign := sign_suffix t
  have hbehind := (Text.suffix_getD 0 suffix_of_exponent?).trans
    ((Text.suffix_getD [] (t := t₁) suffix_of_fraction?).trans (hbefore.trans hsign))
  have hfew : ¬ maxDigits < whole.length := by
    have hle : (sign t).2.countP (isDigitIn 10) ≤ t.countP (isDigitIn 10) :=
      hsign.sublist.countP_le
    omega
  rw [if_neg hfew] at h
  split_ifs at h
  all_goals
    cases h
    exact .ok hbehind

lemma suffix_of_namedNumber? {v : Value} (h : namedNumber? t = some (v, rest)) : rest <:+ t := by
  have hsign := sign_suffix t
  rw [namedNumber?] at h
  generalize sign t = found at h hsign
  obtain ⟨negative, t'⟩ := found
  simp only at h
  split at h
  next hmark =>
    cases h
    exact (suffix_of_after? hmark).trans hsign
  next hmark =>
    cases h
    exact (suffix_of_after? hmark).trans hsign
  next => cases h

lemma suffix_of_boolean? {v : Value} (h : boolean? t = some (v, rest)) : rest <:+ t := by
  rw [boolean?] at h
  split at h
  next hmark =>
    cases h
    exact suffix_of_after? hmark
  next hmark =>
    cases h
    exact suffix_of_after? hmark
  next => cases h

lemma scalar_leaves (h : t.countP (isDigitIn 10) ≤ maxDigits) : Leaves t (scalar t) := by
  rw [scalar]
  split
  next outcome houtcome => exact (string?_leaves houtcome).map fun r hr => hr
  next =>
    split
    next v => exact .ok (suffix_of_boolean? ‹_›)
    next => exact moment?_leaves ‹_›
    next => exact .ok (suffix_of_time? ‹_›)
    next => exact .ok (suffix_of_markedInteger? ‹_›)
    next => exact decimal?_leaves ‹_› h
    next => exact .ok (suffix_of_namedNumber? ‹_›)
    next => exact .error rfl

end MovePack.Toml
