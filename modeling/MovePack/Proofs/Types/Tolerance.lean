/-
# Types that are kept as text

Every text is read as a type.  What names no type tag becomes a leaf that keeps the text, and the
mark of a reference before it is kept as well, so that the text can be put together again.  What
names one is shown with the spacing of its own, which changes blank characters only, and is read
again as the same type.
-/
import Mathlib
import MovePack.Proofs.Types.Grammar

namespace MovePack

/-- The text without its blank characters. -/
def Text.withoutBlanks (t : Text) : Text := t.filter fun c => !c.isBlank

@[simp] lemma Text.withoutBlanks_append (s t : Text) :
    Text.withoutBlanks (s ++ t) = s.withoutBlanks ++ t.withoutBlanks :=
  List.filter_append ..

namespace Types.Token

variable {t : Text} {tokens : List Token}

lemma withoutBlanks_of_isName {word : Text} (h : IsName word) : word.withoutBlanks = word := by
  obtain ⟨c, rest, rfl, hstart, hcontinue⟩ := h
  refine List.filter_eq_self.mpr (List.forall_mem_cons.mpr ⟨?_, fun d hd => ?_⟩)
  · rw [isBlank_of_startsName hstart, Bool.not_false]
  · rw [(isVisible_of_continuesName (hcontinue d hd)).isBlank, Bool.not_false]

/-- Without its blank characters a text is the row of its tokens. -/
lemma IsCut.withoutBlanks_eq (h : IsCut t tokens) : t.withoutBlanks = tokens.flatMap text := by
  induction h with
  | nil => rfl
  | blank hblank _ ih =>
    rw [← ih, Text.withoutBlanks, List.filter_cons_of_neg (by simp [hblank])]
    rfl
  | name hname _ _ ih =>
    rw [Text.withoutBlanks_append, withoutBlanks_of_isName hname, ih]
    rfl
  | character hvisible _ _ ih =>
    rw [List.flatMap_cons, text_ofCharacter, ← ih, Text.withoutBlanks,
      List.filter_cons_of_pos (by simp [hvisible])]
    rfl

/-- Texts with the same tokens differ in blank characters only. -/
lemma withoutBlanks_eq_of_scan_eq {s t : Text} (h : scan s = scan t) :
    s.withoutBlanks = t.withoutBlanks := by
  rw [(scan_eq_iff_isCut.mp h).withoutBlanks_eq, (scan_eq_iff_isCut.mp rfl).withoutBlanks_eq]

end Types.Token

open MovePack.Types (Token)

namespace TypeTag

/-! ## Texts with a tag -/

variable {t : Text} {tag : TypeTag}

/-- The first token of a tag is the name of a vector or of the primitive type. -/
lemma eq_of_tokens_eq_cons {token : Token} {rest : List Token} (h : tag.tokens = token :: rest) :
    token = .name "vector" ∨ token = .name tag.element.name := by
  obtain ⟨_ | depth, element⟩ := tag
  · exact .inr (List.cons.inj h).1.symm
  · exact .inl (List.cons.inj h).1.symm

/-- A text that goes on as a mutable reference names no tag. -/
lemma ofText?_mut_append (target : Text) : ofText? ("mut " ++ target) = none := by
  refine Option.eq_none_iff_forall_ne_some.mpr fun tag htag => ?_
  have hname : Token.IsName "mut" := ⟨_, _, rfl, by decide⟩
  have hscan : Token.scan (("mut" : Text) ++ (" " ++ target)) = tag.tokens :=
    ofText?_eq_some_iff.mp htag
  have hend : ∀ c ∈ ((" " : Text) ++ target).head?, Token.continuesName c = false := by
    intro c hc
    obtain rfl := Option.some.inj hc
    decide
  rw [Token.scan_name_append hname hend] at hscan
  obtain h | h := eq_of_tokens_eq_cons hscan.symm
  · exact absurd (Token.name.inj h) (by decide)
  · exact absurd (Token.name.inj h) (by cases tag.element <;> decide)

/-- What names a tag begins with no text that names none, whatever follows it. -/
lemma dropPrefix?_eq_none {beginning : String} (h : ofText? t = some tag)
    (hnone : ∀ target, ofText? (beginning ++ target) = none) :
    t.dropPrefix? beginning = none := by
  refine Option.eq_none_iff_forall_ne_some.mpr fun target htarget => ?_
  rw [Text.dropPrefix?_eq_some_iff.mp htarget, hnone] at h
  cases h

end TypeTag

namespace MoveType

/-! ## The parts of a text -/

/-- The mark of a reference. -/
def referenceMark (isMutable : Bool) : Text := if isMutable then "&mut " else "&"

variable {t target : Text} {tag : TypeTag}

lemma ofText_of_dropPrefix? (h : t.dropPrefix? "&" = none) : ofText t = ofValueText t := by
  rw [ofText, h]

lemma ofText_referenceMark_append (isMutable : Bool)
    (h : isMutable = false → target.dropPrefix? "mut " = none) :
    ofText (referenceMark isMutable ++ target) = .reference isMutable (ofValueText target) := by
  cases isMutable with
  | false =>
    have hmark : Text.dropPrefix? (referenceMark false ++ target) "&" = some target :=
      Text.dropPrefix?_eq_some_iff.mpr rfl
    rw [ofText, hmark]
    dsimp only
    rw [h rfl]
  | true =>
    have hmark : Text.dropPrefix? (referenceMark true ++ target) "&" = some ("mut " ++ target) :=
      Text.dropPrefix?_eq_some_iff.mpr rfl
    have hmut : Text.dropPrefix? ("mut " ++ target) "mut " = some target :=
      Text.dropPrefix?_eq_some_iff.mpr rfl
    rw [ofText, hmark]
    dsimp only
    rw [hmut]

/-- A text is a value or the mark of a reference and a value. -/
lemma ofText_cases (t : Text) :
    ofText t = ofValueText t ∨
      ∃ isMutable target, t = referenceMark isMutable ++ target ∧
        ofText t = .reference isMutable (ofValueText target) := by
  cases hamp : t.dropPrefix? "&" with
  | none => exact .inl (ofText_of_dropPrefix? hamp)
  | some rest =>
    obtain rfl := Text.dropPrefix?_eq_some_iff.mp hamp
    cases hmut : rest.dropPrefix? "mut " with
    | none => exact .inr ⟨false, rest, rfl, ofText_referenceMark_append false fun _ => hmut⟩
    | some target =>
      obtain rfl := Text.dropPrefix?_eq_some_iff.mp hmut
      exact .inr ⟨true, target, rfl, ofText_referenceMark_append true nofun⟩

lemma ofValueText_cases (t : Text) :
    (∃ tag, TypeTag.ofText? t = some tag ∧ ofValueText t = ofTypeTag tag) ∨
      TypeTag.ofText? t = none ∧ ofValueText t = .unparsable t := by
  rw [ofValueText]
  cases TypeTag.ofText? t with
  | none => exact .inr ⟨rfl, rfl⟩
  | some tag => exact .inl ⟨tag, rfl, rfl⟩

/-! ## The layers of a type -/

lemma layers_ofTypeTag (tag : TypeTag) :
    (ofTypeTag tag).layers = (List.replicate tag.depth .vector, .primitive tag.element) := by
  obtain ⟨depth, element⟩ := tag
  induction depth with
  | zero => rfl
  | succ depth ih =>
    change (Layer.vector :: (ofTypeTag ⟨depth, element⟩).layers.1,
      (ofTypeTag ⟨depth, element⟩).layers.2) = _
    rw [ih]
    rfl

lemma leaf_reference (isMutable : Bool) (target : MoveType) :
    (reference isMutable target).layers.2 = target.layers.2 := rfl

lemma toText_reference (isMutable : Bool) (target : MoveType) :
    (reference isMutable target).toText = referenceMark isMutable ++ target.toText := by
  cases isMutable <;> rfl

/-- A type is shown as its tag is. -/
lemma toText_ofTypeTag (tag : TypeTag) : (ofTypeTag tag).toText = tag.toText := by
  obtain ⟨depth, element⟩ := tag
  induction depth with
  | zero => simp [ofTypeTag, ofLayers, toText, TypeTag.toText]
  | succ depth ih =>
    change "vector<" ++ (ofTypeTag ⟨depth, element⟩).toText ++ ">" = _
    rw [ih, TypeTag.toText, TypeTag.toText, List.replicate_succ, List.replicate_succ']
    simp [Text.ofString]

/-! ## Values -/

/-- A value that is no tag is kept as its text. -/
lemma ofValueText_eq_of_leaf {raw : Text} (h : (ofValueText t).layers.2 = .unparsable raw) :
    ofValueText t = .unparsable raw ∧ t = raw := by
  rcases ofValueText_cases t with ⟨tag, -, hvalue⟩ | ⟨-, hvalue⟩
  · rw [hvalue, layers_ofTypeTag] at h
    cases h
  · rw [hvalue] at h ⊢
    exact ⟨h, unparsable.inj h⟩

/-- A value that is a tag is shown with the same tokens. -/
lemma ofValueText_shown (h : ∀ raw, (ofValueText t).layers.2 ≠ .unparsable raw) :
    ∃ tag, TypeTag.ofText? t = some tag ∧ ofValueText t = ofTypeTag tag ∧
      t.withoutBlanks = tag.toText.withoutBlanks := by
  rcases ofValueText_cases t with ⟨tag, htag, hvalue⟩ | ⟨-, hvalue⟩
  · refine ⟨tag, htag, hvalue, Token.withoutBlanks_eq_of_scan_eq ?_⟩
    rw [TypeTag.ofText?_eq_some_iff.mp htag, TypeTag.scan_toText]
  · rw [hvalue] at h
    exact absurd rfl (h t)

/-- The text of a tag is read as the type of the tag. -/
lemma ofText_toText (tag : TypeTag) : ofText tag.toText = ofTypeTag tag := by
  have htag := TypeTag.ofText?_toText tag
  rw [ofText_of_dropPrefix? (TypeTag.dropPrefix?_eq_none htag TypeTag.ofText?_amp_append),
    ofValueText, htag]

/-- The text of a tag is read behind the mark of a reference, too. -/
lemma ofText_referenceMark_append_toText (isMutable : Bool) (tag : TypeTag) :
    ofText (referenceMark isMutable ++ tag.toText) = .reference isMutable (ofTypeTag tag) := by
  have htag := TypeTag.ofText?_toText tag
  rw [ofText_referenceMark_append isMutable fun _ =>
    TypeTag.dropPrefix?_eq_none htag TypeTag.ofText?_mut_append, ofValueText, htag]

/-! ## Texts -/

/-- What cannot be read as a tag is kept as it stands, behind the mark of the reference. -/
lemma eq_of_leaf_ofText {raw : Text} (h : (ofText t).layers.2 = .unparsable raw) :
    (ofText t = .unparsable raw ∧ t = raw) ∨
      ∃ isMutable, ofText t = .reference isMutable (.unparsable raw) ∧
        t = referenceMark isMutable ++ raw := by
  rcases ofText_cases t with hvalue | ⟨isMutable, target, rfl, hreference⟩
  · rw [hvalue] at h ⊢
    exact .inl (ofValueText_eq_of_leaf h)
  · rw [hreference, leaf_reference] at h
    obtain ⟨hvalue, rfl⟩ := ofValueText_eq_of_leaf h
    exact .inr ⟨isMutable, by rw [hreference, hvalue], rfl⟩

/-- What is read as a tag, perhaps behind the mark of a reference, is shown up to blanks. -/
lemma shown_of_leaf_ofText (h : ∀ raw, (ofText t).layers.2 ≠ .unparsable raw) :
    t.withoutBlanks = (ofText t).toText.withoutBlanks ∧ ofText (ofText t).toText = ofText t := by
  rcases ofText_cases t with hvalue | ⟨isMutable, target, rfl, hreference⟩
  · rw [hvalue] at h ⊢
    obtain ⟨tag, -, htype, hblanks⟩ := ofValueText_shown h
    rw [htype, toText_ofTypeTag]
    exact ⟨hblanks, ofText_toText tag⟩
  · rw [hreference] at h ⊢
    obtain ⟨tag, -, htype, hblanks⟩ := ofValueText_shown h
    rw [htype, toText_reference, toText_ofTypeTag, Text.withoutBlanks_append,
      Text.withoutBlanks_append, hblanks]
    exact ⟨rfl, ofText_referenceMark_append_toText isMutable tag⟩

lemma toTypeTag_eq_error_iff {type : MoveType} :
    type.toTypeTag = .error ⟨type⟩ ↔ type.toTypeTag? = none := by
  rw [toTypeTag]
  cases type.toTypeTag? <;> simp

/-- **Reading a type loses nothing.**  A text that is kept is the one that was read, behind the mark
of the reference that the type is.  Any other text is shown as it was but for blank characters, and
what is shown is read as the same type.  The type has the type tag that the text names, and when
the text names none the type is refused. -/
theorem ofText_faithful (t : Text) :
    (∀ raw, (ofText t).layers.2 = .unparsable raw →
      (ofText t = .unparsable raw ∧ t = raw) ∨
        ∃ isMutable, ofText t = .reference isMutable (.unparsable raw) ∧
          t = referenceMark isMutable ++ raw) ∧
    ((∀ raw, (ofText t).layers.2 ≠ .unparsable raw) →
      t.withoutBlanks = (ofText t).toText.withoutBlanks ∧ ofText (ofText t).toText = ofText t) ∧
    (∀ tag, (ofText t).toTypeTag = .ok tag ↔ TypeTag.ofText? t = some tag) ∧
    ((ofText t).toTypeTag = .error ⟨ofText t⟩ ↔ TypeTag.ofText? t = none) := by
  refine ⟨fun raw => eq_of_leaf_ofText, shown_of_leaf_ofText, fun tag => ?_, ?_⟩
  · rw [toTypeTag_eq_ok_iff, toTypeTag?_ofText]
  · rw [toTypeTag_eq_error_iff, toTypeTag?_ofText]

/-- A reference whose mark is spaced otherwise is kept, and one to a spaced vector is shown
without the spacing. -/
theorem ofText_faithful_references :
    (ofText "& mut u8" = .reference false (.unparsable " mut u8") ∧
      ("& mut u8" : Text) = referenceMark false ++ " mut u8") ∧
    Text.withoutBlanks "&mut vector < u8 >" = Text.withoutBlanks "&mut vector<u8>" ∧
    ofText "&mut vector<u8>" = ofText "&mut vector < u8 >" := by
  have hkept : ofText "& mut u8" = .reference false (.unparsable " mut u8") := by cbv
  have hread : ofText "&mut vector < u8 >" = .reference true (.vector (.primitive .u8)) := by cbv
  have hshown : (ofText "&mut vector < u8 >").toText = "&mut vector<u8>" := by rw [hread]; rfl
  obtain ⟨hraw, -⟩ := ofText_faithful "& mut u8"
  obtain ⟨-, hblanks, -⟩ := ofText_faithful "&mut vector < u8 >"
  have hleaf : ∀ raw, (ofText "&mut vector < u8 >").layers.2 ≠ .unparsable raw := by
    intro raw hleaf
    rw [hread] at hleaf
    cases hleaf
  obtain ⟨hsame, hagain⟩ := hblanks hleaf
  rw [hshown] at hsame hagain
  refine ⟨?_, hsame, hagain⟩
  obtain ⟨h, -⟩ | ⟨isMutable, h, ht⟩ := hraw " mut u8" (by rw [hkept]; rfl)
  · rw [hkept] at h
    cases h
  · rw [hkept] at h
    cases h
    exact ⟨hkept, ht⟩

end MoveType

end MovePack
