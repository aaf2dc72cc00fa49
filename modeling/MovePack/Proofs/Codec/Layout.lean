/-
# Layouts

The serialized form of a value is a row of pieces: numerals, and bytes that can be spelled in one
way only.  The row is the layout of the value.  A format is right when its writer spells the layout
with the shortest numerals, and its reader takes exactly the spellings of the layouts of the values
that have one.  This file says what that means, and that joining formats keeps it.
-/
import MovePack.Proofs.Codec.Numeral

namespace MovePack.Codec

/-- A piece of a serialized value. -/
inductive Piece where
  /-- A number, which stands there as a numeral. -/
  | number (n : Nat)
  /-- Bytes that stand there as they are. -/
  | plain (bytes : Bytes)

namespace Piece

/-- The piece as it is written. -/
def bytes : Piece → Bytes
  | .number n => Written.ulebBytes n
  | .plain bytes => bytes

/-- The input begins with the piece in some spelling, and the rest follows. -/
def SpelledBy : Piece → (input rest : Bytes) → Prop
  | .number n, input, rest => ∃ s, IsNumeral s n ∧ input = s ++ rest
  | .plain bytes, input, rest => input = bytes ++ rest

end Piece

/-- The input begins with the pieces in some spelling, and the rest follows. -/
def Spelled : List Piece → (input rest : Bytes) → Prop
  | [], input, rest => input = rest
  | p :: layout, input, rest => ∃ mid, p.SpelledBy input mid ∧ Spelled layout mid rest

/-- The pieces as they are written. -/
def spell (layout : List Piece) : Bytes := layout.flatMap Piece.bytes

/-- The numerals in a spelling of the pieces. -/
def numerals : List Piece → Bytes → List Bytes
  | [], _ => []
  | .number _ :: layout, input =>
    numeralAt input :: numerals layout (input.drop (numeralAt input).length)
  | .plain bytes :: layout, input => numerals layout (input.drop bytes.length)

/-- No numeral in the spelling is padded. -/
def Unpadded (layout : List Piece) (input : Bytes) : Prop :=
  ∀ s ∈ numerals layout input, ¬ IsPadded s

instance (layout : List Piece) (input : Bytes) : Decidable (Unpadded layout input) :=
  inferInstanceAs (Decidable (∀ s ∈ numerals layout input, ¬ IsPadded s))

section Spelling

variable {p : Piece} {layout layout' : List Piece} {input rest : Bytes}

@[simp] lemma spelled_nil : Spelled [] input rest ↔ input = rest := Iff.rfl

lemma spelled_cons :
    Spelled (p :: layout) input rest ↔ ∃ mid, p.SpelledBy input mid ∧ Spelled layout mid rest :=
  Iff.rfl

@[simp] lemma spelledBy_plain {bytes : Bytes} :
    (Piece.plain bytes).SpelledBy input rest ↔ input = bytes ++ rest := Iff.rfl

@[simp] lemma spelled_singleton : Spelled [p] input rest ↔ p.SpelledBy input rest := by
  simp [spelled_cons]

lemma spelled_append :
    Spelled (layout ++ layout') input rest ↔
      ∃ mid, Spelled layout input mid ∧ Spelled layout' mid rest := by
  induction layout generalizing input with
  | nil => simp
  | cons p layout ih =>
    simp only [List.cons_append, spelled_cons, ih]
    constructor
    · rintro ⟨mid, hp, mid', h, h'⟩
      exact ⟨mid', ⟨mid, hp, h⟩, h'⟩
    · rintro ⟨mid', ⟨mid, hp, h⟩, h'⟩
      exact ⟨mid, hp, mid', h, h'⟩

@[simp] lemma spell_nil : spell [] = [] := rfl

@[simp] lemma spell_cons : spell (p :: layout) = p.bytes ++ spell layout := rfl

@[simp] lemma spell_append : spell (layout ++ layout') = spell layout ++ spell layout' :=
  List.flatMap_append

/-- A numeral takes at least one byte. -/
lemma Piece.SpelledBy.length_lt {n : Nat} (h : (Piece.number n).SpelledBy input rest) :
    rest.length < input.length := by
  obtain ⟨s, hs, rfl⟩ := h
  have := List.length_pos_of_ne_nil hs.ne_nil
  rw [List.length_append]
  omega

/-- What is written is a spelling. -/
lemma spelled_spell (layout : List Piece) (rest : Bytes) :
    Spelled layout (spell layout ++ rest) rest := by
  induction layout with
  | nil => rfl
  | cons p layout ih =>
    refine ⟨spell layout ++ rest, ?_, ih⟩
    cases p with
    | number n => exact ⟨_, isNumeral_ulebBytes n, by simp [Piece.bytes]⟩
    | plain bytes => simp [Piece.bytes]

/-- A spelling is at the beginning of the input. -/
lemma Spelled.exists_append (h : Spelled layout input rest) : ∃ s, input = s ++ rest := by
  induction layout generalizing input with
  | nil => exact ⟨[], h⟩
  | cons p layout ih =>
    obtain ⟨mid, hp, hmid⟩ := h
    obtain ⟨s, rfl⟩ := ih hmid
    cases p with
    | number n =>
      obtain ⟨numeral, -, rfl⟩ := hp
      exact ⟨numeral ++ s, (List.append_assoc _ _ _).symm⟩
    | plain bytes =>
      obtain rfl := hp
      exact ⟨bytes ++ s, (List.append_assoc _ _ _).symm⟩

/-- No spelling is shorter than what is written. -/
lemma Spelled.length_le (h : Spelled layout input rest) :
    (spell layout).length + rest.length ≤ input.length := by
  induction layout generalizing input with
  | nil => simp [spelled_nil.mp h]
  | cons p layout ih =>
    obtain ⟨mid, hp, hmid⟩ := h
    have hlayout := ih hmid
    cases p with
    | number n =>
      obtain ⟨s, hs, rfl⟩ := hp
      have := hs.length_ulebBytes_le
      simp only [spell_cons, Piece.bytes, List.length_append]
      omega
    | plain bytes =>
      obtain rfl := hp
      simp only [spell_cons, Piece.bytes, List.length_append]
      omega

/-- A spelling is what is written exactly when none of its numerals is padded. -/
lemma Spelled.eq_spell_iff (h : Spelled layout input rest) :
    spell layout ++ rest = input ↔ Unpadded layout input := by
  induction layout generalizing input with
  | nil => simp [spelled_nil.mp h, Unpadded, numerals]
  | cons p layout ih =>
    obtain ⟨mid, hp, hmid⟩ := h
    have hlayout := ih hmid
    cases p with
    | number n =>
      obtain ⟨s, hs, rfl⟩ := hp
      rw [Unpadded, numerals, hs.numeralAt_append, List.drop_left, List.forall_mem_cons,
        ← hs.ulebBytes_eq_iff, ← Unpadded, ← hlayout, spell_cons, Piece.bytes, List.append_assoc]
      constructor
      · intro heq
        -- the numerals at the front of both sides are the same
        have hs' : Written.ulebBytes n = s := by
          rw [← (isNumeral_ulebBytes n).numeralAt_append, heq, hs.numeralAt_append]
        rw [hs'] at heq
        exact ⟨hs', List.append_cancel_left heq⟩
      · rintro ⟨hs', hmid'⟩
        rw [hs', hmid']
    | plain bytes =>
      obtain rfl := hp
      rw [Unpadded, numerals, List.drop_left, ← Unpadded, ← hlayout]
      simp [Piece.bytes]

end Spelling

/-! ## Layouts of parts that are counted -/

/-- The layout of a byte string behind the count of its bytes. -/
def countedLayout (b : Bytes) : List Piece := [.number b.length, .plain b]

/-- The layout of a sequence: the count of the values, and the layouts of these. -/
def sequenceLayout {α : Type} (layout : α → List Piece) (values : List α) : List Piece :=
  .number values.length :: values.flatMap layout

end MovePack.Codec
