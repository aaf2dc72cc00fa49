/-
# The grammar of type tags

The tokens of a text are said here without the scanner: blank characters stand before, between and
after them, a name goes on as far as it can, and any other character is a token of its own.  There
is one way only to cut a text like that.  The texts that name a type tag are then those whose
tokens are a row of opened vectors, the name of a primitive type, and as many closing brackets.  In
such a row every name is followed by a bracket or by nothing, so the same texts come about by
writing the words of the tag with any spacing.
-/
import Mathlib.Data.List.Chain
import MovePack.Proofs.Types.Signature

namespace MovePack

/-- The text consists of the pieces, with blank characters before, between and after them. -/
inductive Text.IsSpaced : List Text → Text → Prop
  /-- After the last piece there are blank characters at most. -/
  | nil {gap : Text} (hgap : ∀ c ∈ gap, c.isBlank = true) : IsSpaced [] gap
  /-- Blank characters may stand before the first piece. -/
  | cons {gap piece rest : Text} {pieces : List Text} (hgap : ∀ c ∈ gap, c.isBlank = true)
      (hrest : IsSpaced pieces rest) : IsSpaced (piece :: pieces) (gap ++ (piece ++ rest))

lemma Text.IsSpaced.cons_blank {pieces : List Text} {t : Text} {c : CodePoint}
    (hc : c.isBlank = true) (h : IsSpaced pieces t) : IsSpaced pieces (c :: t) := by
  cases h with
  | nil hgap => exact .nil (List.forall_mem_cons.mpr ⟨hc, hgap⟩)
  | cons hgap hrest => exact @cons (c :: _) _ _ _ (List.forall_mem_cons.mpr ⟨hc, hgap⟩) hrest

namespace Types.Token

/-! ## Cutting a text -/

/-- The text is cut into the tokens. -/
inductive IsCut : Text → List Token → Prop
  /-- An empty text has no tokens. -/
  | nil : IsCut [] []
  /-- A blank character belongs to no token. -/
  | blank {c : CodePoint} {rest : Text} {tokens : List Token} (hblank : c.isBlank = true)
      (hrest : IsCut rest tokens) : IsCut (c :: rest) tokens
  /-- A name ends where no character follows that could go on with it. -/
  | name {name rest : Text} {tokens : List Token} (hname : IsName name)
      (hend : ∀ c ∈ rest.head?, continuesName c = false) (hrest : IsCut rest tokens) :
      IsCut (name ++ rest) (.name name :: tokens)
  /-- A character that is not blank and begins no name is a token. -/
  | character {c : CodePoint} {rest : Text} {tokens : List Token} (hvisible : c.isBlank = false)
      (hstart : startsName c = false) (hrest : IsCut rest tokens) :
      IsCut (c :: rest) (ofCharacter c :: tokens)

variable {t : Text} {tokens : List Token}

lemma scan_cons_of_isBlank {c : CodePoint} (hc : c.isBlank = true) (rest : Text) :
    scan (c :: rest) = scan rest := by
  rw [scan, if_pos hc]

lemma isName_takeWhile {c : CodePoint} (hstart : startsName c = true) (rest : Text) :
    IsName (c :: rest.takeWhile continuesName) :=
  ⟨c, _, rfl, hstart, fun _ hd => List.mem_takeWhile_imp hd⟩

/-- The scanner cuts a text in the only way there is. -/
theorem scan_eq_iff_isCut : scan t = tokens ↔ IsCut t tokens := by
  constructor
  · rintro rfl
    fun_induction scan t with
    | case1 => exact .nil
    | case2 c rest hblank ih => exact .blank hblank ih
    | case3 c rest hblank hstart ih =>
      have hend : ∀ d ∈ (rest.dropWhile continuesName).head?, continuesName d = false := by
        intro d hd
        have hnot := List.head?_dropWhile_not continuesName rest
        rwa [hd] at hnot
      have hcut := IsCut.name (isName_takeWhile hstart rest) hend ih
      rwa [List.cons_append, List.takeWhile_append_dropWhile] at hcut
    | case4 c rest hblank hstart ih =>
      exact .character (by simpa using hblank) (by simpa using hstart) ih
  · intro h
    induction h with
    | nil => rw [scan]
    | blank hblank _ ih => rw [scan_cons_of_isBlank hblank, ih]
    | name hname hend _ ih => rw [scan_name_append hname hend, ih]
    | character hvisible hstart _ ih =>
      rw [scan, if_neg (by simp [hvisible]), if_neg (by simp [hstart]), ih]

/-! ## Spacing -/

/-- The text of a token. -/
def text : Token → Text
  | .name word => word
  | .opening => [.scalar '<']
  | .closing => [.scalar '>']
  | .other c => [c]

/-- The token is a bracket, which ends a name before it. -/
def IsBracket (token : Token) : Prop := token = .opening ∨ token = .closing

/-- The token is a bracket or can be written as a name. -/
def IsWord : Token → Prop
  | .name word => IsName word
  | token => token.IsBracket

@[simp] lemma text_ofCharacter (c : CodePoint) : (ofCharacter c).text = [c] := by
  rw [ofCharacter]
  split_ifs with hopening hclosing
  · rw [hopening, text]
  · rw [hclosing, text]
  · rw [text]

/-- A text consists of its tokens and of blanks. -/
lemma IsCut.isSpaced (h : IsCut t tokens) : Text.IsSpaced (tokens.map text) t := by
  induction h with
  | nil => exact .nil (by simp)
  | blank hblank _ ih => exact ih.cons_blank hblank
  | @name word rest tokens _ _ _ ih => exact @Text.IsSpaced.cons [] word _ _ (by simp) ih
  | @character c rest tokens _ _ _ ih =>
    rw [List.map_cons, text_ofCharacter]
    exact @Text.IsSpaced.cons [] [c] _ _ (by simp) ih

lemma continuesName_of_isBlank {c : CodePoint} (h : c.isBlank = true) :
    continuesName c = false := by
  by_contra hcontinues
  have hvisible := isVisible_of_continuesName (by simpa using hcontinues)
  simp [hvisible.isBlank] at h

/-- Before a bracket, blanks, or the end of the text a name is over. -/
lemma continuesName_of_isSpaced (h : Text.IsSpaced (tokens.map text) t)
    (hfirst : ∀ token ∈ tokens.head?, token.IsBracket) :
    ∀ c ∈ t.head?, continuesName c = false := by
  intro c hc
  cases tokens with
  | nil =>
    cases h with
    | nil hgap => exact continuesName_of_isBlank (hgap c (List.mem_of_mem_head? hc))
  | cons token tokens =>
    cases h with
    | @cons gap _ rest _ hgap _ =>
      cases gap with
      | nil =>
        obtain rfl | rfl := hfirst token rfl <;> obtain rfl := Option.some.inj hc <;> decide
      | cons d gap =>
        obtain rfl := Option.some.inj hc
        exact continuesName_of_isBlank (hgap d List.mem_cons_self)

lemma scan_append_of_isBlank {gap : Text} (hgap : ∀ c ∈ gap, c.isBlank = true) (rest : Text) :
    scan (gap ++ rest) = scan rest := by
  induction gap with
  | nil => rfl
  | cons c gap ih =>
    obtain ⟨hc, hgap⟩ := List.forall_mem_cons.mp hgap
    rw [List.cons_append, scan_cons_of_isBlank hc, ih hgap]

/-- Where brackets stand between names, words are read as tokens in any spacing. -/
lemma scan_eq_of_isSpaced (hwords : ∀ token ∈ tokens, token.IsWord)
    (hapart : tokens.IsChain fun a b => a.IsBracket ∨ b.IsBracket)
    (h : Text.IsSpaced (tokens.map text) t) : scan t = tokens := by
  induction tokens generalizing t with
  | nil =>
    cases h with
    | nil hgap => rw [← List.append_nil t, scan_append_of_isBlank hgap, scan]
  | cons token tokens ih =>
    cases h with
    | @cons gap _ rest _ hgap hrest =>
      obtain ⟨hword, hwords⟩ := List.forall_mem_cons.mp hwords
      have htokens := ih hwords hapart.tail hrest
      rw [scan_append_of_isBlank hgap]
      cases token with
      | name word =>
        -- a name is over, since what follows it is a bracket or nothing
        have hfirst : ∀ next ∈ tokens.head?, next.IsBracket := fun next hnext =>
          (hapart.rel_head? hnext).resolve_left (by simp [IsBracket])
        rw [text, scan_name_append hword (continuesName_of_isSpaced hrest hfirst), htokens]
      | opening => rw [text, List.singleton_append, scan_opening, htokens]
      | closing => rw [text, List.singleton_append, scan_closing, htokens]
      | other c => simp [IsWord, IsBracket] at hword

end Types.Token

open MovePack.Types (Token)

namespace TypeTag

/-! ## The words of a tag -/

/-- The tokens of a number of vectors around a primitive type: for every vector its name and an
opening bracket, the name of the primitive type, and for every vector a closing bracket. -/
def row (depth : Nat) (element : Primitive) : List Token :=
  (List.replicate depth [.name "vector", .opening]).flatten ++
    .name element.name :: List.replicate depth .closing

lemma tokensFrom_eq (tag : TypeTag) (vectors : Nat) :
    tag.tokensFrom vectors = (List.replicate vectors [.name "vector", .opening]).flatten ++
      .name tag.element.name :: List.replicate tag.depth .closing := by
  induction vectors with
  | zero => rfl
  | succ vectors ih => simp [tokensFrom, ih, List.replicate_succ]

lemma tokens_eq_row (depth : Nat) (element : Primitive) :
    tokens ⟨depth, element⟩ = row depth element := tokensFrom_eq _ _

lemma isWord_of_mem_tokensFrom (tag : TypeTag) (vectors : Nat) :
    ∀ token ∈ tag.tokensFrom vectors, token.IsWord := by
  induction vectors with
  | zero =>
    refine List.forall_mem_cons.mpr ⟨isName_name _, fun token htoken => ?_⟩
    rw [List.eq_of_mem_replicate htoken]
    exact .inr rfl
  | succ vectors ih =>
    exact List.forall_mem_cons.mpr ⟨isName_vector, List.forall_mem_cons.mpr ⟨.inl rfl, ih⟩⟩

/-- Of two neighbours among the tokens of a tag one is a bracket. -/
lemma isChain_tokensFrom (tag : TypeTag) (vectors : Nat) :
    (tag.tokensFrom vectors).IsChain fun a b => a.IsBracket ∨ b.IsBracket := by
  induction vectors with
  | zero =>
    have hclosing : ∀ token ∈ (List.replicate tag.depth Token.closing).head?, token.IsBracket :=
      fun token htoken => .inr (List.eq_of_mem_replicate (List.mem_of_mem_head? htoken))
    exact (List.pairwise_replicate.mpr (.inr (.inl (.inr rfl)))).isChain.cons
      fun token htoken => .inr (hclosing token htoken)
  | succ vectors ih =>
    refine (ih.cons fun _ _ => .inl (.inl rfl)).cons fun token htoken => .inr ?_
    exact .inl (Option.some.inj htoken).symm

/-- The words of a tag may be written in any spacing. -/
lemma scan_eq_tokens_iff {t : Text} {tag : TypeTag} :
    Token.scan t = tag.tokens ↔ t.IsSpaced (tag.tokens.map Token.text) :=
  ⟨fun h => (Token.scan_eq_iff_isCut.mp h).isSpaced,
    Token.scan_eq_of_isSpaced (tag.isWord_of_mem_tokensFrom _) (tag.isChain_tokensFrom _)⟩

/-- **The texts that name a type tag.**  A text names the tag of a number of vectors around a
primitive type exactly when it is cut into the tokens of that tag, names going on as far as they
can; these are the texts that consist of its words with blank characters before, between and after
them.  Every other text names none. -/
theorem ofText?_eq_some_iff_isCut (t : Text) :
    (∀ depth element, ofText? t = some ⟨depth, element⟩ ↔ Token.IsCut t (row depth element)) ∧
    (∀ depth element, ofText? t = some ⟨depth, element⟩ ↔
      t.IsSpaced ((row depth element).map Token.text)) ∧
    (ofText? t = none ↔ ∀ depth element, ¬ Token.IsCut t (row depth element)) := by
  have hcut : ∀ depth element,
      ofText? t = some ⟨depth, element⟩ ↔ Token.IsCut t (row depth element) := by
    intro depth element
    rw [ofText?_eq_some_iff, tokens_eq_row, Token.scan_eq_iff_isCut]
  refine ⟨hcut, fun depth element => ?_, ?_⟩
  · rw [ofText?_eq_some_iff, scan_eq_tokens_iff, tokens_eq_row]
  · simp only [← hcut, Option.eq_none_iff_forall_ne_some]
    exact ⟨fun h depth element => h ⟨depth, element⟩, fun h tag => h tag.depth tag.element⟩

end TypeTag

end MovePack
