/-
# What an argument means

A value of JSON denotes a value of the script: a single value the one its text stands for, an array
the list of what its elements denote.  The encoded form of an argument is the serialized form of
what the JSON value denotes, as a vector nested to the depth that the encoder reports, and of
nothing else.
-/
import Mathlib.Data.List.Forall2
import MovePack.Proofs.Script.Literal
import MovePack.Proofs.Script.Recursion

namespace MovePack

open Codec (Schema)

namespace Codec.Schema

/-- Vectors nested to a depth, around values of a schema. -/
def vector (element : Schema) : (depth : Nat) → Schema
  | 0 => element
  | depth + 1 => .sequence (element.vector depth)

lemma selfDelimiting_vector {element : Schema} (h : element.SelfDelimiting) :
    ∀ depth, (element.vector depth).SelfDelimiting
  | 0 => h
  | depth + 1 => selfDelimiting_vector h depth

end Codec.Schema

namespace ArgType

variable {type : ArgType}

lemma selfDelimiting_schema (h : type ≠ .raw) : type.schema.SelfDelimiting := by
  cases type <;> trivial

/-- The text that shows a single value. -/
def leafText? : Json → Option Text
  | .bool b => some (Text.ofString (if b then "true" else "false"))
  | .int i => some (Text.ofInt i)
  | .float x => some x.toText
  | .str t => some t
  | _ => none

/-- The JSON value stands for a value nested to the depth: the texts of its single values stand for
single values, and its arrays have the shape of the vectors. -/
def DenotesAt (type : ArgType) : (depth : Nat) → Json → (type.schema.vector depth).Carrier → Prop
  | 0, v, x => ∃ t, leafText? v = some t ∧ type.Denotes t x
  | depth + 1, v, (xs : List (type.schema.vector depth).Carrier) =>
    ∃ elements, v = .arr elements ∧ List.Forall₂ (type.DenotesAt depth) elements xs

/-- A JSON value stands for one value of a depth at most. -/
theorem DenotesAt.unique {depth : Nat} {v : Json} {x y : (type.schema.vector depth).Carrier}
    (hx : type.DenotesAt depth v x) (hy : type.DenotesAt depth v y) : x = y := by
  induction depth generalizing v with
  | zero =>
    obtain ⟨t, ht, hx⟩ := hx
    obtain ⟨t', ht', hy⟩ := hy
    cases ht.symm.trans ht'
    exact hx.unique hy
  | succ depth ih =>
    obtain ⟨elements, rfl, hx⟩ := hx
    obtain ⟨elements', heq, hy⟩ := hy
    cases heq
    have hright : Relator.RightUnique (type.DenotesAt depth) := fun _ _ _ => ih
    exact hright.forall₂ hx hy

/-- The argument is the serialized form of what the value denotes. -/
def IsEncoded (type : ArgType) (v : Json) (argument : Argument) : Prop :=
  ∃ x, type.DenotesAt argument.depth v x ∧ (type.schema.vector argument.depth).Fits x ∧
    Codec.spell ((type.schema.vector argument.depth).layout x) = argument.bytes

lemma isEncoded_of_ne_arr (htype : type ≠ .raw) {v : Json} (harr : ∀ elements, v ≠ .arr elements)
    (argument : Argument) (h : type.encodeNested v = .ok argument) : type.IsEncoded v argument := by
  rw [encodeNested_of_ne_arr harr] at h
  obtain ⟨bytes, hscalar, h⟩ := Except.bind_eq_ok_iff.mp h
  cases h
  obtain ⟨t, ht, hencode⟩ : ∃ t, leafText? v = some t ∧ type.encodeText t = .ok bytes := by
    cases v with
    | null | obj | arr => cases hscalar
    | _ => exact ⟨_, rfl, hscalar⟩
  obtain ⟨x, hx, hfits, hbytes⟩ := exists_denotes_of_encodeText htype hencode
  exact ⟨x, ⟨t, ht, hx⟩, hfits, hbytes⟩

lemma countBytes_eq_ok {elements : List Json} {count : Bytes}
    (h : countBytes elements = .ok count) :
    elements.length ≤ Codec.maxCount ∧ Codec.Written.ulebBytes elements.length = count := by
  rw [countBytes, complete_eq_ok_iff] at h
  have hle := Codec.Written.le_of_toExcept_count h
  rw [Codec.Written.count_of_le hle] at h
  exact ⟨hle, Except.ok.inj h⟩

/-- Elements are encoded one after the other, and agree in their depth. -/
lemma encodeElements_cons_eq_ok {depth? : Option Nat} {v : Json} {rest : List Json}
    {encoded : Bytes × Option Nat} (h : type.encodeElements depth? (v :: rest) = .ok encoded) :
    ∃ element bytes, type.encodeNested v = .ok element ∧ (depth?.all (· = element.depth)) = true ∧
      type.encodeElements (some element.depth) rest = .ok (bytes, encoded.2) ∧
      encoded.1 = element.bytes ++ bytes := by
  rw [encodeElements] at h
  obtain ⟨element, hv, h⟩ := Except.bind_eq_ok_iff.mp h
  split at h
  next hdepth =>
    obtain ⟨⟨bytes, depth?'⟩, hrest, h⟩ := Except.bind_eq_ok_iff.mp h
    cases h
    exact ⟨element, bytes, hv, hdepth, hrest, rfl⟩
  next => cases h

/-- Elements stand for the values whose serialized forms follow one another. -/
lemma exists_forall₂_of_encodeElements {elements : List Json}
    (ih : ∀ v ∈ elements, ∀ argument, type.encodeNested v = .ok argument →
      type.IsEncoded v argument) {depth : Nat} {encoded : Bytes × Option Nat}
    (h : type.encodeElements (some depth) elements = .ok encoded) :
    encoded.2 = some depth ∧ ∃ xs : List (type.schema.vector depth).Carrier,
      List.Forall₂ (type.DenotesAt depth) elements xs ∧
        (∀ x ∈ xs, (type.schema.vector depth).Fits x) ∧
        Codec.spell (xs.flatMap (type.schema.vector depth).layout) = encoded.1 := by
  induction elements generalizing encoded with
  | nil =>
    cases h
    exact ⟨rfl, [], .nil, by simp, rfl⟩
  | cons v rest ih' =>
    obtain ⟨element, bytes, hv, hdepth, hrest, hbytes⟩ := encodeElements_cons_eq_ok h
    obtain rfl : depth = element.depth := by simpa using hdepth
    obtain ⟨x, hx, hfits, hspell⟩ := ih v List.mem_cons_self element hv
    obtain ⟨hresult, xs, hxs, hfits', hspell'⟩ :=
      ih' (fun v hv => ih v (List.mem_cons_of_mem _ hv)) hrest
    refine ⟨hresult, x :: xs, .cons hx hxs, List.forall_mem_cons.mpr ⟨hfits, hfits'⟩, ?_⟩
    rw [List.flatMap_cons, Codec.spell_append, hspell, hspell', hbytes]

/-- The first element fixes the depth of the others. -/
lemma exists_encodeElements_some {v : Json} {rest : List Json} {encoded : Bytes × Option Nat}
    (h : type.encodeElements none (v :: rest) = .ok encoded) :
    ∃ depth, type.encodeElements (some depth) (v :: rest) = .ok encoded := by
  obtain ⟨element, bytes, hv, -, hrest, hbytes⟩ := encodeElements_cons_eq_ok h
  refine ⟨element.depth, ?_⟩
  have hdepth : (some element.depth).all (· = element.depth) = true := by simp
  rw [encodeElements, hv]
  change (if _ then _ else _) = _
  rw [if_pos hdepth, hrest]
  change Except.ok (element.bytes ++ bytes, encoded.2) = _
  rw [← hbytes]

lemma isEncoded_arr {elements : List Json}
    (ih : ∀ v ∈ elements, ∀ argument, type.encodeNested v = .ok argument →
      type.IsEncoded v argument) (argument : Argument)
    (h : type.encodeNested (.arr elements) = .ok argument) :
    type.IsEncoded (.arr elements) argument := by
  rw [encodeNested] at h
  obtain ⟨count, hcount, h⟩ := Except.bind_eq_ok_iff.mp h
  obtain ⟨⟨bytes, depth?⟩, helements, h⟩ := Except.bind_eq_ok_iff.mp h
  cases h
  obtain ⟨hle, rfl⟩ := countBytes_eq_ok hcount
  cases elements with
  | nil =>
    cases helements
    exact ⟨[], ⟨[], rfl, .nil⟩, ⟨hle, by simp⟩, rfl⟩
  | cons first rest =>
    obtain ⟨depth, hsome⟩ := exists_encodeElements_some helements
    obtain ⟨hdepth, xs, hxs, hfits, hbytes⟩ := exists_forall₂_of_encodeElements ih hsome
    obtain rfl : depth? = some depth := hdepth
    refine ⟨xs, ⟨first :: rest, rfl, hxs⟩, ⟨hxs.length_eq ▸ hle, hfits⟩, ?_⟩
    change Codec.spell (.number xs.length :: xs.flatMap (type.schema.vector depth).layout) = _
    rw [Codec.spell_cons, hbytes, ← hxs.length_eq]
    rfl

/-- The recursion encodes what the value denotes. -/
theorem isEncoded_of_encodeNested (htype : type ≠ .raw) :
    ∀ v argument, type.encodeNested v = .ok argument → type.IsEncoded v argument
  | .arr _ => isEncoded_arr fun v _ => isEncoded_of_encodeNested htype v
  | .null | .bool _ | .int _ | .float _ | .str _ | .obj _ =>
    isEncoded_of_ne_arr htype (by rintro _ ⟨⟩)

/-- **Encoded arguments mean what was written.**  For every type but raw bytes, the argument of a
JSON value is read with a reader of vectors, nested to the depth that the encoder reports, around
the reader of single values of the type.  What is read is the one value that the JSON value stands
for at this depth, and all bytes of the argument are consumed, whatever follows them. -/
theorem encodeJson_denotes (type : ArgType) (htype : type ≠ .raw) (v : Json) (argument : Argument)
    (h : type.encodeJson v = .ok argument) :
    ∃ x : (type.schema.vector argument.depth).Carrier,
      (∀ y, type.DenotesAt argument.depth v y ↔ y = x) ∧
      (type.schema.vector argument.depth).reader.readAll argument.bytes = .ok x ∧
      ∀ suffix, (type.schema.vector argument.depth).reader.read (argument.bytes ++ suffix) =
        (.ok x, suffix) := by
  rw [encodeJson_eq_encodeNested] at h
  obtain ⟨x, hx, hfits, hbytes⟩ := isEncoded_of_encodeNested htype v argument h
  have hformat := Schema.isFormat
    (Schema.selfDelimiting_vector (selfDelimiting_schema htype) argument.depth)
  rw [← hbytes]
  exact ⟨x, fun y => ⟨fun hy => hy.unique hx, fun hy => hy ▸ hx⟩, hformat.readAll_spell hfits,
    hformat.read_spell_append hfits⟩

/-- Rows of integers of two bytes, one of them empty and one number with a sign. -/
theorem encodeJson_denotes_rows :
    let rows : Json := .arr [.arr [.int 1, .str "+513"], .arr []]
    let values : List (List Int) := [[1, 513], []]
    ArgType.u16 ≠ .raw ∧ ArgType.u16.encodeJson rows = .ok ⟨[2, 2, 1, 0, 1, 2, 0], 2⟩ ∧
      (∀ y, ArgType.u16.DenotesAt 2 rows y ↔ y = values) ∧
      (Schema.sequence (.sequence (.uint 2))).reader.readAll [2, 2, 1, 0, 1, 2, 0] =
        .ok values := by
  intro rows values
  have hpair : ∀ v w : Json, countBytes [v, w] = .ok [2] := fun v w => by
    simp [countBytes, complete, Codec.Written.count, Codec.maxCount, Codec.Written.ulebBytes]
    rfl
  have hempty : countBytes [] = .ok [0] := by
    simp [countBytes, complete, Codec.Written.count, Codec.Written.ulebBytes]
    rfl
  have hone : ArgType.u16.encodeScalar (.int 1) = .ok [1, 0] := by rfl
  have hplus : ArgType.u16.encodeScalar (.str "+513") = .ok [1, 2] := by rfl
  have hencode : ArgType.u16.encodeJson rows = .ok ⟨[2, 2, 1, 0, 1, 2, 0], 2⟩ := by
    rw [encodeJson_eq_encodeNested]
    simp only [rows, encodeNested, encodeElements, hpair, hempty, hone, hplus]
    rfl
  have hread : (Schema.sequence (.sequence (.uint 2))).reader.readAll [2, 2, 1, 0, 1, 2, 0] =
      .ok values := by rfl
  obtain ⟨x, hdenotes, hx, -⟩ := encodeJson_denotes .u16 (by decide) rows _ hencode
  obtain rfl : x = values := Except.ok.inj (hx.symm.trans hread)
  exact ⟨by decide, hencode, hdenotes, hread⟩

end ArgType

end MovePack
