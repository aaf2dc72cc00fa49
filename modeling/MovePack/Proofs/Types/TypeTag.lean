/-
# The format of type tags

A type tag is laid out as the number of a vector for every vector, and the number of the primitive
type inside them.  The reader goes on until it finds a number that is not that of a vector.
-/
import MovePack.Proofs.Codec.Format

namespace MovePack

lemma Primitive.ofVariant?_eq_some_iff {variant : Nat} {element : Primitive} :
    ofVariant? variant = some element ↔ element.variant = variant := by
  constructor
  · intro h
    simpa using List.find?_some h
  · rintro rfl
    cases element <;> rfl

namespace TypeTag

open Codec (IsFormat Piece ReadFault Reader Spelled Written maxCount spell spelled_singleton)

/-- The layout of a type tag: a number for every vector, and that of the primitive type. -/
def layout (tag : TypeTag) : List Piece :=
  List.replicate tag.depth (.number vectorVariant) ++ [.number tag.element.variant]

lemma write_eq_spell_layout (tag : TypeTag) : tag.write = ⟨spell tag.layout, none⟩ := by
  have hvector : Written.ulebBytes vectorVariant = [UInt8.ofNat vectorVariant] := by
    simp [Written.ulebBytes, vectorVariant]
  have helement : Written.ulebBytes tag.element.variant = [UInt8.ofNat tag.element.variant] := by
    rw [Written.ulebBytes, dif_pos (by cases tag.element <;> decide)]
  have hdepth : ∀ depth, spell (List.replicate depth (.number vectorVariant)) =
      List.replicate depth (UInt8.ofNat vectorVariant) := by
    intro depth
    induction depth with
    | zero => rfl
    | succ depth ih => simp [List.replicate_succ, Piece.bytes, hvector, ih]
  simp [write, Written.fixed, layout, hdepth, Piece.bytes, helement]

/-- The number of a primitive type is that of a tag inside any number of vectors. -/
lemma nested_of_ofVariant? {depth variant : Nat} {element : Primitive}
    (h : Primitive.ofVariant? variant = some element) : nested depth variant = .ok ⟨depth, element⟩ := by
  have hvariant := Primitive.ofVariant?_eq_some_iff.mp h
  have hvector : (variant : Int) ≠ (vectorVariant : Nat) := by
    rw [← hvariant]
    cases element <;> decide
  have hsingle : single variant = .ok ⟨0, element⟩ := by
    rw [single, if_neg hvector, if_neg (by omega), Int.toNat_natCast, h]
  rw [nested, hsingle]

/-- A number that is not that of a primitive type is refused before a tag is made of it. -/
lemma ofInnermost_eq (depth variant : Nat) :
    ofInnermost depth variant =
      if variant = structVariant then .error .structTypeTag
      else match Primitive.ofVariant? variant with
        | some element => .ok ⟨depth, element⟩
        | none => .error (.unknownTypeTag variant) := by
  rw [ofInnermost]
  refine if_congr Iff.rfl rfl ?_
  cases hvariant : Primitive.ofVariant? variant with
  | none => rfl
  | some element =>
    rw [if_neg (by simp), nested_of_ofVariant? hvariant]
    rfl

lemma isOfBytes_of_ofInnermost {depth variant : Nat} {fault : ReadFault}
    (h : ofInnermost depth variant = .error fault) : fault.IsOfBytes := by
  rw [ofInnermost_eq] at h
  split_ifs at h
  · cases h
    exact nofun
  · split at h <;> cases h
    exact nofun

lemma ofInnermost_eq_ok_iff {depth variant : Nat} {tag : TypeTag} :
    ofInnermost depth variant = .ok tag ↔
      tag.depth = depth ∧ tag.element.variant = variant := by
  have hstruct : tag.element.variant ≠ structVariant := by cases tag.element <;> decide
  rw [ofInnermost_eq]
  split
  next h =>
    simp only [reduceCtorEq, false_iff, not_and]
    rintro - rfl
    exact hstruct h
  next h =>
    split
    next element helement =>
      rw [Primitive.ofVariant?_eq_some_iff] at helement
      subst helement
      simp only [Except.ok.injEq]
      constructor
      · rintro rfl
        exact ⟨rfl, rfl⟩
      · rintro ⟨rfl, hvariant⟩
        have htag := Primitive.ofVariant?_eq_some_iff.mpr hvariant
        rw [Primitive.ofVariant?_eq_some_iff.mpr rfl] at htag
        cases htag
        rfl
    next hnone =>
      simp only [reduceCtorEq, false_iff, not_and]
      rintro - hvariant
      rw [Primitive.ofVariant?_eq_some_iff.mpr hvariant] at hnone
      cases hnone

/-- A tag that is spelled at the front ends with its first number, or that one is a vector's. -/
lemma exists_spelled_layout_iff {element : Primitive} {input rest : Bytes} {P : Nat → Prop} :
    (∃ depth, P depth ∧ Spelled (layout ⟨depth, element⟩) input rest) ↔
      (P 0 ∧ (Piece.number element.variant).SpelledBy input rest) ∨
        ∃ mid, (Piece.number vectorVariant).SpelledBy input mid ∧
          ∃ depth, P (depth + 1) ∧ Spelled (layout ⟨depth, element⟩) mid rest := by
  constructor
  · rintro ⟨depth, hdepth, hspelled⟩
    cases depth with
    | zero => exact .inl ⟨hdepth, spelled_singleton.mp hspelled⟩
    | succ depth =>
      obtain ⟨mid, hfirst, hothers⟩ := hspelled
      exact .inr ⟨mid, hfirst, depth, hdepth, hothers⟩
  · rintro (⟨hdepth, hspelled⟩ | ⟨mid, hfirst, depth, hdepth, hothers⟩)
    · exact ⟨0, hdepth, spelled_singleton.mpr hspelled⟩
    · exact ⟨depth + 1, hdepth, mid, hfirst, hothers⟩

/-- Enough room lets every spelling of a tag be read. -/
lemma readNumbers_eq_ok_iff {depth fuel : Nat} {input rest : Bytes} {tag : TypeTag}
    (hfuel : input.length < fuel) :
    readNumbers depth fuel input = (.ok tag, rest) ↔
      ∃ inner, tag.depth = depth + inner ∧ Spelled (layout ⟨inner, tag.element⟩) input rest := by
  have hvector : tag.element.variant ≠ vectorVariant := by cases tag.element <;> decide
  have hvariant : tag.element.variant ≤ maxCount := by cases tag.element <;> decide
  -- every number takes a byte, so the room that is left stays enough for the bytes that are left
  induction fuel generalizing depth input with
  | zero => omega
  | succ fuel ih =>
    rw [exists_spelled_layout_iff, readNumbers]
    simp only [← Reader.read_uleb_eq_ok_iff_of_le hvariant,
      ← Reader.read_uleb_eq_ok_iff_of_le (show vectorVariant ≤ maxCount by decide)]
    cases hread : Reader.uleb.read input with
    | mk outcome mid =>
      cases outcome with
      | error fault => simp
      | ok variant =>
        have hmid := (Reader.read_uleb_eq_ok_iff.mp hread).2.length_lt
        dsimp only
        split
        next heq =>
          have hinner := @ih (depth + 1) mid (by omega)
          refine hinner.trans ?_
          rw [heq]
          simp [hvector.symm, Nat.add_assoc, Nat.add_comm 1]
        next hne =>
          simp only [Prod.mk.injEq, ofInnermost_eq_ok_iff, Except.ok.injEq, hne, false_and,
            exists_false, or_false, Nat.add_zero, and_assoc, @eq_comm _ variant]

/-- Type tags are a format, in which every tag fits. -/
theorem isFormat : IsFormat write reader layout (fun _ => True) where
  write_eq tag _ := write_eq_spell_layout tag
  read_iff input tag rest := by
    change readNumbers 0 (input.length + 1) input = (.ok tag, rest) ↔ _
    rw [readNumbers_eq_ok_iff (Nat.lt_succ_self _)]
    simp

end TypeTag

end MovePack
