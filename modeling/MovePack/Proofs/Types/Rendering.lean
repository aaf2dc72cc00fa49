/-
# Rendered types

A type is shown from the outside inwards: a vector and a kept text between brackets after their
word, a reference behind its mark.  What is shown begins differently for every outer form, except
that the mark of a reference begins the one of a mutable reference; but no type is shown with a
text that begins like the rest of that longer mark.  So the outer form can be told from the text,
and taking it off leaves the text of what is inside, whatever a kept text may hold.
-/
import MovePack.Proofs.Types.Tolerance

namespace MovePack.MoveType

/-- The type is put together from primitive types and kept texts, by vectors and references. -/
def IsComposed : MoveType → Prop
  | .primitive _ | .unparsable _ => True
  | .named _ => False
  | .vector element => element.IsComposed
  | .reference _ target => target.IsComposed

variable {t : MoveType} {inner raw : Text} {p : Primitive} {isMutable : Bool}

/-! ## The outer form of a text -/

/-- The texts of primitive types hold no bracket. -/
lemma opening_notMem_toText_primitive (p : Primitive) :
    CodePoint.scalar '<' ∉ (primitive p).toText := by
  cases p <;> decide

/-- The rest of the mark of a mutable reference begins no text of a type. -/
lemma head?_toText_ne_m (ht : t.IsComposed) : t.toText.head? ≠ some (.scalar 'm') := by
  cases t with
  | primitive p => cases p <;> decide
  | named name => exact ht.elim
  | unparsable raw => simp [toText, Text.ofString]
  | vector element => simp [toText, Text.ofString]
  | reference isMutable target => cases isMutable <;> simp [toText, Text.ofString]

lemma eq_primitive_of_toText (ht : t.IsComposed) (h : t.toText = (primitive p).toText) :
    t = .primitive p := by
  -- all other texts hold a bracket or begin with the mark of a reference
  have hbracket := opening_notMem_toText_primitive p
  rw [← h] at hbracket
  cases t with
  | primitive q => cases p <;> cases q <;> first | rfl | exact absurd h (by decide)
  | named name => exact ht.elim
  | unparsable raw => simp [toText, Text.ofString] at hbracket
  | vector element => simp [toText, Text.ofString] at hbracket
  | reference isMutable target =>
    rw [toText_reference] at h
    cases isMutable <;> cases p <;> simp [referenceMark, toText, Primitive.name, Text.ofString] at h

lemma eq_unparsable_of_toText (ht : t.IsComposed) (h : t.toText = "unparsable<" ++ raw ++ ">") :
    t = .unparsable raw := by
  cases t with
  | primitive p =>
    refine absurd ?_ (opening_notMem_toText_primitive p)
    rw [h]
    simp [Text.ofString]
  | named name => exact ht.elim
  | unparsable raw' => exact congrArg _ (List.append_cancel_left (List.append_cancel_right h))
  | vector element => simp [toText, Text.ofString] at h
  | reference isMutable target => cases isMutable <;> simp [toText, Text.ofString] at h

lemma exists_vector_of_toText (ht : t.IsComposed) (h : t.toText = "vector<" ++ inner ++ ">") :
    ∃ element, t = .vector element ∧ element.toText = inner := by
  cases t with
  | primitive p =>
    refine absurd ?_ (opening_notMem_toText_primitive p)
    rw [h]
    simp [Text.ofString]
  | named name => exact ht.elim
  | unparsable raw => simp [toText, Text.ofString] at h
  | vector element => exact ⟨element, rfl, List.append_cancel_left (List.append_cancel_right h)⟩
  | reference isMutable target => cases isMutable <;> simp [toText, Text.ofString] at h

lemma exists_reference_of_toText (ht : t.IsComposed) (hinner : inner.head? ≠ some (.scalar 'm'))
    (h : t.toText = referenceMark isMutable ++ inner) :
    ∃ target, t = .reference isMutable target ∧ target.toText = inner := by
  cases t with
  | primitive p =>
    cases isMutable <;> cases p <;> simp [referenceMark, toText, Primitive.name, Text.ofString] at h
  | named name => exact ht.elim
  | unparsable raw => cases isMutable <;> simp [referenceMark, toText, Text.ofString] at h
  | vector element => cases isMutable <;> simp [referenceMark, toText, Text.ofString] at h
  | reference isMutable' target =>
    rw [toText_reference] at h
    have htarget : target.toText.head? ≠ some (.scalar 'm') := head?_toText_ne_m (t := target) ht
    -- of two different marks the longer one would begin what stands behind the shorter one
    cases isMutable <;> cases isMutable'
    · exact ⟨target, rfl, List.append_cancel_left h⟩
    · simp [referenceMark, Text.ofString] at h
      simp [← h] at hinner
    · simp [referenceMark, Text.ofString] at h
      simp [h] at htarget
    · exact ⟨target, rfl, List.append_cancel_left h⟩

/-! ## Types with the same text -/

/-- Types with the same text have the same outer form, and what is inside has the same text. -/
theorem toText_inj {a b : MoveType} (ha : a.IsComposed) (hb : b.IsComposed)
    (h : a.toText = b.toText) : a = b := by
  induction a generalizing b with
  | primitive p => exact (eq_primitive_of_toText hb h.symm).symm
  | named name => exact ha.elim
  | unparsable raw => exact (eq_unparsable_of_toText hb h.symm).symm
  | vector element ih =>
    obtain ⟨element', rfl, helement⟩ := exists_vector_of_toText hb h.symm
    exact congrArg vector (ih (b := element') ha hb helement.symm)
  | reference isMutable target ih =>
    rw [toText_reference] at h
    have htarget : target.toText.head? ≠ some (.scalar 'm') := head?_toText_ne_m (t := target) ha
    obtain ⟨target', rfl, htext⟩ := exists_reference_of_toText hb htarget h.symm
    exact congrArg (reference isMutable) (ih (b := target') ha hb htext.symm)

lemma ofLayers_layers (t : MoveType) : ofLayers t.layers.1 t.layers.2 = t := by
  induction t with
  | vector element ih => exact congrArg vector ih
  | reference isMutable target ih => exact congrArg (reference isMutable) ih
  | _ => rfl

/-- **Rendered types are unambiguous.**  Types that are put together from primitive types and kept
texts, by vectors and references, are shown with the same text exactly when they are the same: the
same layers around the same leaf. -/
theorem toText_eq_iff_layers_eq {a b : MoveType} (ha : a.IsComposed) (hb : b.IsComposed) :
    (a.toText = b.toText ↔ a = b) ∧ (a = b ↔ a.layers = b.layers) := by
  refine ⟨⟨toText_inj ha hb, congrArg toText⟩, ⟨congrArg layers, fun h => ?_⟩⟩
  rw [← ofLayers_layers a, ← ofLayers_layers b, h]

/-- A bracket at the end of a kept text is told from the ones that close. -/
theorem toText_eq_iff_layers_eq_bracket :
    (vector (unparsable "T>")).IsComposed ∧ (vector (unparsable "T")).IsComposed ∧
    (vector (unparsable "T>")).toText ≠ (vector (unparsable "T")).toText := by
  have ha : (vector (unparsable "T>")).IsComposed := trivial
  have hb : (vector (unparsable "T")).IsComposed := trivial
  exact ⟨ha, hb, mt (toText_eq_iff_layers_eq ha hb).1.mp (by decide)⟩

/-- A type that is known by its name alone may be shown as another one. -/
example : (named "&u8").toText = (reference false (primitive .u8)).toText := rfl

end MovePack.MoveType
