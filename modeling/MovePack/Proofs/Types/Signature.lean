/-
# Type signatures

A text names a type tag exactly when its tokens are those of the tag: for every vector its name and
an opening bracket, the name of the primitive type, and for every vector a closing bracket.  The
text of a tag is cut into just these tokens, so it names the tag and no other one.
-/
import MovePack.Proofs.Text.Hex
import MovePack.Proofs.Types.TypeTag
import MovePack.Types.MoveType

namespace MovePack

namespace Types.Token

/-! ## Cutting a text into tokens -/

/-- The text is a name. -/
def IsName (t : Text) : Prop :=
  ∃ c rest, t = c :: rest ∧ startsName c = true ∧ ∀ d ∈ rest, continuesName d = true

lemma continuesName_of_startsName {c : CodePoint} (h : startsName c = true) :
    continuesName c = true := by
  cases c with
  | surrogate offset => cases h
  | scalar c =>
    simp only [startsName, continuesName, Char.isAlphanum, Bool.or_eq_true] at h ⊢
    tauto

lemma isVisible_of_continuesName {c : CodePoint} (h : continuesName c = true) : c.IsVisible := by
  cases c with
  | surrogate offset => cases h
  | scalar c =>
    change (((decide (65 ≤ c.val ∧ c.val ≤ 90) || (decide (97 ≤ c.val) && decide (c.val ≤ 122))) ||
      (decide (48 ≤ c.val) && decide (c.val ≤ 57))) || decide (c = '_')) = true at h
    simp only [Bool.or_eq_true, Bool.and_eq_true, decide_eq_true_eq, UInt32.le_iff_toNat_le] at h
    change (((65 ≤ c.toNat ∧ c.toNat ≤ 90) ∨ 97 ≤ c.toNat ∧ c.toNat ≤ 122) ∨
      48 ≤ c.toNat ∧ c.toNat ≤ 57) ∨ c = '_' at h
    change 0x21 ≤ c.toNat ∧ c.toNat < 0x7F
    obtain ((h | h) | h) | rfl := h
    · omega
    · omega
    · omega
    · decide

lemma isBlank_of_startsName {c : CodePoint} (h : startsName c = true) : c.isBlank = false :=
  (isVisible_of_continuesName (continuesName_of_startsName h)).isBlank

/-- A name is one token where no character follows that could go on with it. -/
lemma scan_name_append {name rest : Text} (hname : IsName name)
    (hrest : ∀ c ∈ rest.head?, continuesName c = false) :
    scan (name ++ rest) = .name name :: scan rest := by
  obtain ⟨c, name, rfl, hstart, hcontinue⟩ := hname
  -- the name ends where the rest begins
  have htake : rest.takeWhile continuesName = [] ∧ rest.dropWhile continuesName = rest := by
    cases rest with
    | nil => exact ⟨rfl, rfl⟩
    | cons d rest =>
      have hd : ¬ continuesName d = true := by simpa using hrest d rfl
      exact ⟨List.takeWhile_cons_of_neg hd, List.dropWhile_cons_of_neg hd⟩
  rw [List.cons_append, scan, if_neg (by simp [isBlank_of_startsName hstart]), if_pos hstart,
    List.takeWhile_append_of_pos hcontinue, List.dropWhile_append_of_pos hcontinue, htake.1,
    htake.2, List.append_nil]

/-- A visible character that begins no name is a token of its own. -/
lemma scan_cons_of_isVisible {c : CodePoint} (hc : c.IsVisible) (hstart : startsName c = false)
    (rest : Text) : scan (c :: rest) = ofCharacter c :: scan rest := by
  rw [scan, if_neg (by simp [hc.isBlank]), if_neg (by simp [hstart])]

lemma scan_opening (rest : Text) : scan (.scalar '<' :: rest) = .opening :: scan rest :=
  scan_cons_of_isVisible (by decide) (by decide) rest

lemma scan_closing (rest : Text) : scan (.scalar '>' :: rest) = .closing :: scan rest :=
  scan_cons_of_isVisible (by decide) (by decide) rest

lemma scan_replicate_closing (depth : Nat) :
    scan (List.replicate depth (.scalar '>')) = List.replicate depth .closing := by
  induction depth with
  | zero => rw [List.replicate_zero, scan, List.replicate_zero]
  | succ depth ih => rw [List.replicate_succ, scan_closing, ih, List.replicate_succ]

end Types.Token

open MovePack.Types (Token)

lemma Primitive.ofName?_eq_some_iff {name : Text} {p : Primitive} :
    ofName? name = some p ↔ name = p.name := by
  constructor
  · intro h
    rw [ofName?] at h
    simpa [eq_comm] using List.find?_some h
  · rintro rfl
    cases p <;> rfl

namespace TypeTag

/-! ## The tokens of a tag -/

/-- The tokens of a tag from the place where so many of its vectors are still to be opened. -/
def tokensFrom (tag : TypeTag) : (vectors : Nat) → List Token
  | 0 => .name tag.element.name :: List.replicate tag.depth .closing
  | vectors + 1 => .name "vector" :: .opening :: tag.tokensFrom vectors

/-- The tokens of a tag. -/
def tokens (tag : TypeTag) : List Token := tag.tokensFrom tag.depth

lemma isName_vector : Token.IsName "vector" := ⟨_, _, rfl, by decide⟩

lemma isName_name (p : Primitive) : Token.IsName p.name := by
  cases p <;> exact ⟨_, _, rfl, by decide⟩

lemma scan_leaf (tag : TypeTag) :
    Token.scan ((tag.element.name : Text) ++ List.replicate tag.depth (CodePoint.scalar '>')) =
      tag.tokensFrom 0 := by
  rw [Token.scan_name_append (isName_name _), Token.scan_replicate_closing, tokensFrom]
  intro c hc
  obtain rfl := List.eq_of_mem_replicate (List.mem_of_mem_head? hc)
  decide

/-- The text of a tag is cut into its tokens. -/
lemma scan_toText (tag : TypeTag) : Token.scan tag.toText = tag.tokens := by
  -- all brackets that close are there from the beginning, whatever has been opened
  suffices h : ∀ vectors, Token.scan ((List.replicate vectors (Text.ofString "vector<")).flatten ++
      ((tag.element.name : Text) ++ List.replicate tag.depth (CodePoint.scalar '>'))) =
      tag.tokensFrom vectors by
    rw [toText, List.append_assoc]
    exact h tag.depth
  intro vectors
  induction vectors with
  | zero => exact tag.scan_leaf
  | succ vectors ih =>
    have hvector : Text.ofString "vector<" = Text.ofString "vector" ++ [.scalar '<'] := by decide
    rw [List.replicate_succ, List.flatten_cons, List.append_assoc]
    nth_rewrite 1 [hvector]
    rw [List.append_assoc, List.singleton_append,
      Token.scan_name_append isName_vector (by simp; decide), Token.scan_opening, ih, tokensFrom]

/-- Either all vectors of a tag are open or one more is opened first. -/
lemma exists_tokensFrom_iff {depth : Nat} {l : List Token} {tag : TypeTag} :
    (∃ vectors, tag.depth = depth + vectors ∧ l = tag.tokensFrom vectors) ↔
      (tag.depth = depth ∧ l = .name tag.element.name :: List.replicate depth .closing) ∨
        ∃ rest, l = .name "vector" :: .opening :: rest ∧
          ∃ vectors, tag.depth = depth + 1 + vectors ∧ rest = tag.tokensFrom vectors := by
  constructor
  · rintro ⟨_ | vectors, hdepth, rfl⟩
    · exact .inl ⟨hdepth, by rw [tokensFrom, hdepth, Nat.add_zero]⟩
    · exact .inr ⟨_, rfl, vectors, by omega, rfl⟩
  · rintro (⟨rfl, rfl⟩ | ⟨_, rfl, vectors, hdepth, rfl⟩)
    · exact ⟨0, rfl, rfl⟩
    · exact ⟨vectors + 1, by omega, rfl⟩

/-- Tokens name a tag inside opened vectors when they are what is left of its tokens. -/
lemma ofTokens_eq_some_iff {depth : Nat} {l : List Token} {tag : TypeTag} :
    ofTokens depth l = some tag ↔
      ∃ vectors, tag.depth = depth + vectors ∧ l = tag.tokensFrom vectors := by
  have hopening : ∀ depth rest, Token.opening :: rest ≠ List.replicate depth .closing := by
    intro depth rest h
    exact absurd (List.eq_of_mem_replicate (h ▸ List.mem_cons_self)) (by decide)
  rw [exists_tokensFrom_iff]
  fun_induction ofTokens depth l with
  | case1 depth rest ih =>
    -- a vector is opened, so the name of the primitive type is still to come
    rw [← exists_tokensFrom_iff] at ih
    simp [ih, hopening, and_comm]
  | case2 depth name rest hname => simp [hname, hopening]
  | case3 depth name hrest =>
    have hopen : ∀ rest, List.replicate depth Token.closing ≠ .opening :: rest := hrest
    obtain ⟨depth', element⟩ := tag
    simp [Primitive.ofName?_eq_some_iff, hopen, and_comm, @eq_comm _ depth']
  | case4 depth name rest hopens hcloses =>
    have hopen : ∀ rest', rest ≠ .opening :: rest' := hopens
    simp [hcloses, hopen]
  | case5 l depth hvector hname =>
    have hnone : ∀ name rest, l ≠ .name name :: rest := hname
    simp [hnone]

theorem ofText?_eq_some_iff {t : Text} {tag : TypeTag} :
    ofText? t = some tag ↔ Token.scan t = tag.tokens := by
  rw [ofText?, ofTokens_eq_some_iff, tokens]
  simp

/-- The text of a tag names this tag. -/
theorem ofText?_toText (tag : TypeTag) : ofText? tag.toText = some tag :=
  ofText?_eq_some_iff.mpr (scan_toText tag)

/-- A text that begins as a reference names no tag. -/
lemma ofText?_amp_append (target : Text) : ofText? ("&" ++ target) = none := by
  change ofTokens 0 (Token.scan (.scalar '&' :: target)) = none
  rw [Token.scan_cons_of_isVisible (by decide) (by decide)]
  rfl

end TypeTag

namespace MoveType

/-! ## Types with a tag -/

lemma toTypeTag?_ofTypeTag (tag : TypeTag) : (ofTypeTag tag).toTypeTag? = some tag := by
  obtain ⟨depth, element⟩ := tag
  induction depth with
  | zero => rfl
  | succ depth ih =>
    change ((ofTypeTag ⟨depth, element⟩).toTypeTag?.map _) = _
    rw [ih]
    rfl

lemma toTypeTag?_ofValueText (t : Text) : (ofValueText t).toTypeTag? = TypeTag.ofText? t := by
  rw [ofValueText]
  cases TypeTag.ofText? t with
  | none => rfl
  | some tag => exact toTypeTag?_ofTypeTag tag

/-- The type of a text has a tag when the text names it; a reference has none. -/
theorem toTypeTag?_ofText (t : Text) : (ofText t).toTypeTag? = TypeTag.ofText? t := by
  rw [ofText]
  cases htarget : t.dropPrefix? "&" with
  | none => exact toTypeTag?_ofValueText t
  | some target =>
    obtain rfl := Text.dropPrefix?_eq_some_iff.mp htarget
    rw [TypeTag.ofText?_amp_append]
    dsimp only
    cases target.dropPrefix? "mut " <;> rfl

lemma toTypeTag_eq_ok_iff {t : MoveType} {tag : TypeTag} :
    t.toTypeTag = .ok tag ↔ t.toTypeTag? = some tag := by
  rw [toTypeTag]
  cases t.toTypeTag? <;> simp

end MoveType

end MovePack
