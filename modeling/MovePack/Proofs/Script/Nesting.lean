/-
# Values that can be encoded, and the first fault of the others

The recursive encoder goes through the elements of an array from left to right.  It stops at the
first one that has no form, or whose depth is not that of the elements before it; an array of which
no element stops it becomes the number of its elements and their bytes.  So a value has a form when
each single value in it has one, each array in it can be counted, and siblings are nested to the
same depth at every level.
-/
import MovePack.Proofs.Script.Denotation

namespace MovePack

namespace Json

/-- A value in a value: this value itself, or one in an element of this array. -/
inductive IsPartOf (part : Json) : Json → Prop where
  /-- A value is part of itself. -/
  | self : IsPartOf part part
  /-- What is part of an element is part of the array. -/
  | inside {v : Json} {elements : List Json} (hv : v ∈ elements) (h : IsPartOf part v) :
      IsPartOf part (.arr elements)

/-- The number of arrays around the first single value of a value, or around nothing in an empty
array. -/
def nesting : Json → Nat
  | .arr [] => 1
  | .arr (first :: _) => nesting first + 1
  | _ => 0

/-- The elements are nested to the same depth. -/
def AreLevel (elements : List Json) : Prop :=
  ∀ u ∈ elements, ∀ v ∈ elements, u.nesting = v.nesting

lemma nesting_of_ne_arr {v : Json} (h : ∀ elements, v ≠ .arr elements) : v.nesting = 0 := by
  cases v with
  | arr elements => exact absurd rfl (h elements)
  | _ => rw [nesting] <;> simp

end Json

namespace ArgType

open Json (IsPartOf AreLevel)

variable {type : ArgType} {depth : Nat} {elements rest : List Json} {v : Json} {fault : ArgFault}

/-! ## Rows of elements -/

/-- The elements are encoded to the arguments, which are nested to the depth. -/
def IsRow (type : ArgType) (depth : Nat) : List Json → List Argument → Prop :=
  List.Forall₂ fun v argument => type.encodeJson v = .ok argument ∧ argument.depth = depth

/-- The encoder stops in the elements: the ones before some element are a row, and this element has
no form or is not nested to their depth. -/
def StopsIn (type : ArgType) (elements : List Json) (fault : ArgFault) : Prop :=
  ∃ depth before v after arguments, elements = before ++ v :: after ∧
    type.IsRow depth before arguments ∧
    (type.encodeJson v = .error fault ∨
      before ≠ [] ∧ fault = .depthMismatch ∧
        ∃ argument, type.encodeJson v = .ok argument ∧ argument.depth ≠ depth)

lemma isRow_nil {arguments : List Argument} : type.IsRow depth [] arguments ↔ arguments = [] :=
  List.forall₂_nil_left_iff

lemma isRow_cons {arguments : List Argument} :
    type.IsRow depth (v :: rest) arguments ↔
      ∃ argument others, (type.encodeJson v = .ok argument ∧ argument.depth = depth) ∧
        type.IsRow depth rest others ∧ arguments = argument :: others :=
  List.forall₂_cons_left_iff

/-- Elements after others of a depth: the first one is encoded, then its depth is compared. -/
lemma encodeElements_some_cons (depth : Nat) (v : Json) (rest : List Json) :
    type.encodeElements (some depth) (v :: rest) = type.encodeJson v >>= fun element =>
      if element.depth = depth then
        (type.encodeElements (some depth) rest).map fun encoded =>
          (element.bytes ++ encoded.1, encoded.2)
      else .error .depthMismatch := by
  rw [encodeElements, encodeJson_eq_encodeNested]
  refine congrArg _ (funext fun element => ?_)
  by_cases hdepth : element.depth = depth
  · rw [if_pos hdepth, if_pos (by simp [hdepth]), hdepth]
    cases type.encodeElements (some depth) rest <;> rfl
  · rw [if_neg hdepth, if_neg (by simpa using Ne.symm hdepth)]

/-- The first element says which depth the others are to have. -/
lemma encodeElements_none_cons {first : Argument} (h : type.encodeJson v = .ok first)
    (rest : List Json) :
    type.encodeElements none (v :: rest) = type.encodeElements (some first.depth) (v :: rest) := by
  rw [encodeJson_eq_encodeNested] at h
  simp [encodeElements, h, Except.ok_bind]

lemma encodeElements_some_eq_ok_iff {encoded : Bytes × Option Nat} :
    type.encodeElements (some depth) elements = .ok encoded ↔
      ∃ arguments, type.IsRow depth elements arguments ∧
        encoded = (arguments.flatMap Argument.bytes, some depth) := by
  induction elements generalizing encoded with
  | nil => simp [encodeElements, isRow_nil, eq_comm]
  | cons v rest ih =>
    rw [encodeElements_some_cons, Except.bind_eq_ok_iff]
    constructor
    · rintro ⟨element, hv, h⟩
      split_ifs at h with hdepth
      obtain ⟨encoded', hrest, rfl⟩ := Except.map_eq_ok_iff.mp h
      obtain ⟨arguments, hrow, rfl⟩ := ih.mp hrest
      exact ⟨element :: arguments, .cons ⟨hv, hdepth⟩ hrow, rfl⟩
    · rintro ⟨arguments, hrow, rfl⟩
      obtain ⟨element, others, ⟨hv, hdepth⟩, hothers, rfl⟩ := isRow_cons.mp hrow
      refine ⟨element, hv, ?_⟩
      rw [if_pos hdepth]
      exact Except.map_eq_ok_iff.mpr ⟨_, ih.mpr ⟨others, hothers, rfl⟩, rfl⟩

lemma encodeElements_some_eq_error_iff :
    type.encodeElements (some depth) elements = .error fault ↔
      ∃ before v after arguments, elements = before ++ v :: after ∧
        type.IsRow depth before arguments ∧
        (type.encodeJson v = .error fault ∨
          fault = .depthMismatch ∧
            ∃ argument, type.encodeJson v = .ok argument ∧ argument.depth ≠ depth) := by
  induction elements with
  | nil => simp [encodeElements]
  | cons v rest ih =>
    rw [encodeElements_some_cons]
    constructor
    · intro h
      cases hv : type.encodeJson v with
      | error fault' =>
        rw [hv] at h
        cases h
        exact ⟨[], v, rest, [], rfl, .nil, .inl hv⟩
      | ok element =>
        rw [hv, Except.ok_bind] at h
        split_ifs at h with hdepth
        · -- the element goes before the one at which the others stop
          obtain ⟨before, v', after, arguments, rfl, hrow, hstop⟩ :=
            ih.mp (Except.map_eq_error_iff.mp h)
          exact ⟨v :: before, v', after, element :: arguments, rfl, .cons ⟨hv, hdepth⟩ hrow,
            hstop⟩
        · cases h
          exact ⟨[], v, rest, [], rfl, .nil, .inr ⟨rfl, element, hv, hdepth⟩⟩
    · rintro ⟨before, v', after, arguments, heq, hrow, hstop⟩
      cases before with
      | nil =>
        cases heq
        obtain hv | ⟨rfl, element, hv, hdepth⟩ := hstop
        · rw [hv]
          rfl
        · rw [hv, Except.ok_bind, if_neg hdepth]
      | cons first before =>
        cases heq
        obtain ⟨element, others, ⟨hv, hdepth⟩, hothers, -⟩ := isRow_cons.mp hrow
        rw [hv, Except.ok_bind, if_pos hdepth]
        exact Except.map_eq_error_iff.mpr (ih.mpr ⟨before, v', after, others, rfl, hothers, hstop⟩)

/-! ## Arrays -/

lemma countBytes_eq (elements : List Json) :
    countBytes elements =
      if elements.length ≤ Codec.maxCount then .ok (Codec.Written.ulebBytes elements.length)
      else .error (.unwritable (.outOfRange elements.length "uleb128")) := by
  split_ifs with h
  · rw [countBytes, Codec.Written.count_of_le h]
    rfl
  · rw [countBytes, Codec.Written.count_of_lt (by omega)]
    rfl

lemma encodeJson_arr (elements : List Json) :
    type.encodeJson (.arr elements) = countBytes elements >>= fun count =>
      (type.encodeElements none elements).map fun encoded =>
        ⟨count ++ encoded.1, encoded.2.getD 0 + 1⟩ := by
  rw [encodeJson_eq_encodeNested, encodeNested]
  cases countBytes elements with
  | error fault => rfl
  | ok count => cases type.encodeElements none elements <;> rfl

/-- Elements without others before them are a row of some depth, which is none in an empty
array. -/
lemma encodeElements_none_eq_ok_iff {encoded : Bytes × Option Nat} :
    type.encodeElements none elements = .ok encoded ↔
      ∃ depth arguments, type.IsRow depth elements arguments ∧ (elements = [] → depth = 0) ∧
        encoded.1 = arguments.flatMap Argument.bytes ∧
        encoded.2 = if elements = [] then none else some depth := by
  cases elements with
  | nil =>
    obtain ⟨bytes, depth?⟩ := encoded
    simp [encodeElements, isRow_nil, eq_comm]
  | cons v rest =>
    simp only [reduceCtorEq, false_implies, true_and, if_false]
    constructor
    · intro h
      obtain ⟨element, -, hv, -, -⟩ := encodeElements_cons_eq_ok h
      rw [← encodeJson_eq_encodeNested] at hv
      rw [encodeElements_none_cons hv, encodeElements_some_eq_ok_iff] at h
      obtain ⟨arguments, hrow, rfl⟩ := h
      exact ⟨element.depth, arguments, hrow, rfl, rfl⟩
    · rintro ⟨depth, arguments, hrow, hbytes, hdepth⟩
      obtain ⟨element, others, ⟨hv, rfl⟩, -, -⟩ := isRow_cons.mp hrow
      rw [encodeElements_none_cons hv, encodeElements_some_eq_ok_iff]
      exact ⟨arguments, hrow, Prod.ext hbytes hdepth⟩

lemma encodeElements_none_eq_error_iff :
    type.encodeElements none elements = .error fault ↔ type.StopsIn elements fault := by
  cases elements with
  | nil => simp [encodeElements, StopsIn]
  | cons v rest =>
    cases hv : type.encodeJson v with
    | error fault' =>
      have hnested := (encodeJson_eq_encodeNested type v).symm.trans hv
      have herror : type.encodeElements none (v :: rest) = .error fault' := by
        rw [encodeElements, hnested]
        rfl
      rw [herror, Except.error.injEq]
      constructor
      · rintro rfl
        exact ⟨0, [], v, rest, [], rfl, .nil, .inl hv⟩
      · rintro ⟨depth, before, v', after, arguments, heq, hrow, hstop⟩
        cases before with
        | nil =>
          cases heq
          simpa [hv] using hstop
        | cons first before =>
          cases heq
          obtain ⟨element, -, ⟨hv', -⟩, -⟩ := isRow_cons.mp hrow
          rw [hv] at hv'
          cases hv'
    | ok first =>
      rw [encodeElements_none_cons hv, encodeElements_some_eq_error_iff]
      constructor
      · rintro ⟨before, v', after, arguments, heq, hrow, hstop⟩
        refine ⟨first.depth, before, v', after, arguments, heq, hrow, hstop.imp_right ?_⟩
        rintro ⟨hfault, argument, hv', hdepth⟩
        refine ⟨?_, hfault, argument, hv', hdepth⟩
        -- the first element has the depth of the first element
        rintro rfl
        cases heq
        obtain rfl := Except.ok.inj (hv.symm.trans hv')
        exact hdepth rfl
      · rintro ⟨depth, before, v', after, arguments, heq, hrow, hstop⟩
        cases before with
        | nil =>
          cases heq
          simp [hv] at hstop
        | cons first' before =>
          cases heq
          obtain ⟨element, -, ⟨hv', rfl⟩, -⟩ := isRow_cons.mp hrow
          obtain rfl := Except.ok.inj (hv.symm.trans hv')
          exact ⟨_, v', after, arguments, rfl, hrow, hstop.imp_right And.right⟩

theorem encodeJson_arr_eq_ok_iff {argument : Argument} :
    type.encodeJson (.arr elements) = .ok argument ↔
      elements.length ≤ Codec.maxCount ∧ ∃ depth arguments, type.IsRow depth elements arguments ∧
        (elements = [] → depth = 0) ∧
        argument = ⟨Codec.Written.ulebBytes elements.length ++ arguments.flatMap Argument.bytes,
          depth + 1⟩ := by
  rw [encodeJson_arr, countBytes_eq]
  split_ifs with hcount
  · simp only [hcount, true_and, Except.ok_bind, Except.map_eq_ok_iff,
      encodeElements_none_eq_ok_iff]
    constructor
    · rintro ⟨⟨bytes, depth?⟩, ⟨depth, arguments, hrow, hempty, rfl, rfl⟩, rfl⟩
      refine ⟨depth, arguments, hrow, hempty, ?_⟩
      split_ifs with h
      · rw [hempty h]
        rfl
      · rfl
    · rintro ⟨depth, arguments, hrow, hempty, rfl⟩
      refine ⟨(arguments.flatMap Argument.bytes, if elements = [] then none else some depth),
        ⟨depth, arguments, hrow, hempty, rfl, rfl⟩, ?_⟩
      split_ifs with h
      · rw [hempty h]
        rfl
      · rfl
  · simp [hcount, Except.bind_eq_ok_iff]

theorem encodeJson_arr_eq_error_iff :
    type.encodeJson (.arr elements) = .error fault ↔
      (Codec.maxCount < elements.length ∧
        fault = .unwritable (.outOfRange elements.length "uleb128")) ∨
      (elements.length ≤ Codec.maxCount ∧ type.StopsIn elements fault) := by
  rw [encodeJson_arr, countBytes_eq]
  split_ifs with hcount
  · rw [Except.ok_bind, Except.map_eq_error_iff, encodeElements_none_eq_error_iff]
    simp [hcount]
  · simp only [hcount, false_and, or_false, Nat.lt_of_not_le hcount, true_and]
    exact ⟨fun h => by cases h; rfl, fun h => by rw [h]; rfl⟩

/-! ## Values with a form -/

/-- What a value needs to have a form: its single values have one, its arrays can be counted and
their elements are nested to the same depth. -/
structure IsEncodable (type : ArgType) (v : Json) : Prop where
  /-- Each single value has a form. -/
  single : ∀ part, IsPartOf part v → (∀ elements, part ≠ .arr elements) →
    ∃ bytes, type.encodeScalar part = .ok bytes
  /-- Each array can be counted. -/
  counted : ∀ elements, IsPartOf (.arr elements) v → elements.length ≤ Codec.maxCount
  /-- The elements of each array are nested to the same depth. -/
  level : ∀ elements, IsPartOf (.arr elements) v → AreLevel elements

lemma IsEncodable.of_mem (h : type.IsEncodable (.arr elements)) (hv : v ∈ elements) :
    type.IsEncodable v where
  single part hpart := h.single part (.inside hv hpart)
  counted elements hpart := h.counted elements (.inside hv hpart)
  level elements hpart := h.level elements (.inside hv hpart)

lemma isEncodable_arr (hcount : elements.length ≤ Codec.maxCount) (hlevel : AreLevel elements)
    (h : ∀ v ∈ elements, type.IsEncodable v) : type.IsEncodable (.arr elements) where
  single part hpart hsingle := by
    cases hpart with
    | self => exact absurd rfl (hsingle elements)
    | inside hv hpart => exact (h _ hv).single part hpart hsingle
  counted elements' hpart := by
    cases hpart with
    | self => exact hcount
    | inside hv hpart => exact (h _ hv).counted elements' hpart
  level elements' hpart := by
    cases hpart with
    | self => exact hlevel
    | inside hv hpart => exact (h _ hv).level elements' hpart

lemma encodeJson_of_ne_arr (h : ∀ elements, v ≠ .arr elements) :
    type.encodeJson v = (type.encodeScalar v).map fun bytes => ⟨bytes, 0⟩ := by
  rw [encodeJson_eq_encodeNested, encodeNested_of_ne_arr h]
  cases type.encodeScalar v <;> rfl

lemma isEncodable_of_ne_arr (h : ∀ elements, v ≠ .arr elements) :
    type.IsEncodable v ↔ ∃ argument, type.encodeJson v = .ok argument := by
  simp only [encodeJson_of_ne_arr h, Except.map_eq_ok_iff]
  constructor
  · intro hv
    obtain ⟨bytes, hbytes⟩ := hv.single v .self h
    exact ⟨_, bytes, hbytes, rfl⟩
  · rintro ⟨_, bytes, hbytes, -⟩
    -- a single value is its only part
    have hpart : ∀ part, IsPartOf part v → part = v := by
      rintro part (_ | _)
      · rfl
      · exact absurd rfl (h _)
    refine ⟨fun part hp _ => ⟨bytes, hpart part hp ▸ hbytes⟩, fun elements hp => ?_,
      fun elements hp => ?_⟩
    · exact absurd (hpart _ hp).symm (h elements)
    · exact absurd (hpart _ hp).symm (h elements)

/-- An argument is nested as deep as the value it is made from. -/
theorem depth_of_encodeJson : ∀ (v : Json) {argument : Argument},
    type.encodeJson v = .ok argument → argument.depth = v.nesting
  | .arr [], argument, h => by
    obtain ⟨-, depth, arguments, -, hempty, rfl⟩ := encodeJson_arr_eq_ok_iff.mp h
    simp [hempty rfl, Json.nesting]
  | .arr (first :: rest), argument, h => by
    obtain ⟨-, depth, arguments, hrow, -, rfl⟩ := encodeJson_arr_eq_ok_iff.mp h
    obtain ⟨element, -, ⟨hfirst, rfl⟩, -⟩ := isRow_cons.mp hrow
    rw [Json.nesting, depth_of_encodeJson first hfirst]
  | .null, argument, h | .bool _, argument, h | .int _, argument, h | .float _, argument, h
  | .str _, argument, h | .obj _, argument, h => by
    obtain ⟨bytes, -, rfl⟩ := Except.map_eq_ok_iff.mp
      ((encodeJson_of_ne_arr (by rintro _ ⟨⟩)).symm.trans h)
    rw [Json.nesting_of_ne_arr (by rintro _ ⟨⟩)]

lemma isEncodable_arr_iff (ih : ∀ v ∈ elements,
      (∃ argument, type.encodeJson v = .ok argument) ↔ type.IsEncodable v) :
    (∃ argument, type.encodeJson (.arr elements) = .ok argument) ↔
      type.IsEncodable (.arr elements) := by
  constructor
  · rintro ⟨argument, h⟩
    obtain ⟨hcount, depth, arguments, hrow, -, -⟩ := encodeJson_arr_eq_ok_iff.mp h
    have helement : ∀ v ∈ elements, ∃ argument, type.encodeJson v = .ok argument ∧
        v.nesting = depth := by
      intro v hv
      obtain ⟨element, -, hencode, hdepth⟩ := hrow.exists_of_mem_left hv
      exact ⟨element, hencode, depth_of_encodeJson v hencode ▸ hdepth⟩
    refine isEncodable_arr hcount (fun u hu v hv => ?_) fun v hv => ?_
    · obtain ⟨-, -, hu⟩ := helement u hu
      obtain ⟨-, -, hv⟩ := helement v hv
      exact hu.trans hv.symm
    · obtain ⟨element, hencode, -⟩ := helement v hv
      exact (ih v hv).mp ⟨element, hencode⟩
  · intro h
    obtain ⟨depth, hempty, hlevel⟩ : ∃ depth, (elements = [] → depth = 0) ∧
        ∀ v ∈ elements, v.nesting = depth := by
      cases elements with
      | nil => exact ⟨0, fun _ => rfl, by simp⟩
      | cons first rest =>
        exact ⟨first.nesting, by simp, fun v hv => h.level _ .self v hv first List.mem_cons_self⟩
    obtain ⟨arguments, hrow⟩ : ∃ arguments, type.IsRow depth elements arguments := by
      refine List.Forall₂.exists_of_forall fun v hv => ?_
      obtain ⟨argument, hencode⟩ := (ih v hv).mpr (h.of_mem hv)
      exact ⟨argument, hencode, (depth_of_encodeJson v hencode).trans (hlevel v hv)⟩
    exact ⟨_, encodeJson_arr_eq_ok_iff.mpr
      ⟨h.counted _ .self, depth, arguments, hrow, hempty, rfl⟩⟩

/-- A value has a form when it has all that it needs. -/
theorem exists_encodeJson_eq_ok_iff (type : ArgType) :
    ∀ v, (∃ argument, type.encodeJson v = .ok argument) ↔ type.IsEncodable v
  | .arr _ => isEncodable_arr_iff fun v _ => exists_encodeJson_eq_ok_iff type v
  | .null | .bool _ | .int _ | .float _ | .str _ | .obj _ =>
    (isEncodable_of_ne_arr (by rintro _ ⟨⟩)).symm

/-- **The encoder with a stack is the recursion on the value.**  A single value is encoded with
depth 0.  An array is encoded as the number of its elements and their bytes, one level deeper than
the elements, an empty one at depth 1; it has the first fault that its elements have from left to
right, be it that an element has no form or that it is not nested as deep as those before it.  So
exactly those values have a form of which all single values have one and all siblings are nested to
the same depth, where an array is counted in 32 bits. -/
theorem encodeJson_eq_recursion (type : ArgType) :
    (∀ v, type.encodeJson v = type.encodeNested v) ∧
    (∀ v, (∀ elements, v ≠ .arr elements) →
      type.encodeJson v = (type.encodeScalar v).map fun bytes => ⟨bytes, 0⟩) ∧
    (∀ elements argument, type.encodeJson (.arr elements) = .ok argument ↔
      elements.length ≤ Codec.maxCount ∧ ∃ depth arguments, type.IsRow depth elements arguments ∧
        (elements = [] → depth = 0) ∧
        argument = ⟨Codec.Written.ulebBytes elements.length ++ arguments.flatMap Argument.bytes,
          depth + 1⟩) ∧
    (∀ elements fault, type.encodeJson (.arr elements) = .error fault ↔
      (Codec.maxCount < elements.length ∧
        fault = .unwritable (.outOfRange elements.length "uleb128")) ∨
      (elements.length ≤ Codec.maxCount ∧ type.StopsIn elements fault)) ∧
    ∀ v, (∃ argument, type.encodeJson v = .ok argument) ↔ type.IsEncodable v :=
  ⟨encodeJson_eq_encodeNested type, fun _ => encodeJson_of_ne_arr,
    fun _ _ => encodeJson_arr_eq_ok_iff, fun _ _ => encodeJson_arr_eq_error_iff,
    exists_encodeJson_eq_ok_iff type⟩

end ArgType

end MovePack
