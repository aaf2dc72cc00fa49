/-
# The forms of a type tag

A tag is put together from the inside outwards, each part with a number of its own.  The innermost
number has to be that of a primitive type.  Around a tag any number of a type may stand, not that of
a vector only, and each one counts as a layer.  What can be told from such a construction is the
number of its layers and the innermost number, and these make up the tag.

A tag has a serialized form, a text and a type in signatures, and it is found again from each of
them.  So tags are the same when their bytes are, or when their texts are.
-/
import MovePack.Proofs.Codec.RoundTrip
import MovePack.Proofs.Types.Signature

namespace MovePack.TypeTag

/-! ## Putting a tag together -/

/-- A tag as it is put together. -/
inductive Construction where
  /-- A number alone. -/
  | single (variant : Int)
  /-- A number around another tag. -/
  | around (variant : Int) (value : Construction)

/-- The number is that of a primitive type. -/
def IsPrimitive (variant : Int) : Prop := ∃ element : Primitive, (element.variant : Int) = variant

namespace Construction

/-- The tag that is put together, or the reason why one of the numbers is refused. -/
def build : Construction → Except BuildFault TypeTag
  | .single variant => TypeTag.single variant
  | .around variant value => do TypeTag.around variant (← value.build)

/-- The number of layers, when so many have been passed, and the innermost number. -/
def unwrapFrom (passed : Nat) : Construction → Nat × Int
  | .single variant => (passed, variant)
  | .around _ value => value.unwrapFrom (passed + 1)

/-- The number of layers and the innermost number. -/
def unwrap (c : Construction) : Nat × Int := c.unwrapFrom 0

/-- The innermost number is that of a primitive type, and each number around it is that of a
primitive type or of a vector. -/
def IsSupported : Construction → Prop
  | .single variant => IsPrimitive variant
  | .around variant value => (variant = vectorVariant ∨ IsPrimitive variant) ∧ value.IsSupported

end Construction

lemma single_eq_ok_iff {variant : Int} {tag : TypeTag} :
    single variant = .ok tag ↔ tag.depth = 0 ∧ (tag.element.variant : Int) = variant := by
  obtain ⟨depth, element⟩ := tag
  have hvector : element.variant ≠ vectorVariant := by cases element <;> decide
  dsimp only
  rw [single]
  split_ifs with hvariant hneg
  · simp only [false_iff, not_and]
    omega
  · simp only [false_iff, not_and]
    omega
  · lift variant to ℕ using by omega
    have hiff := @Primitive.ofVariant?_eq_some_iff variant element
    rw [Int.toNat_natCast, Nat.cast_inj, ← hiff]
    cases Primitive.ofVariant? variant <;> simp [@eq_comm _ 0]

/-- The number around a tag is that of a type, and adds a layer. -/
lemma around_eq_ok_iff {variant : Int} {value tag : TypeTag} :
    around variant value = .ok tag ↔
      (variant = vectorVariant ∨ IsPrimitive variant) ∧
        tag = { value with depth := value.depth + 1 } := by
  have hprimitive : IsPrimitive variant ↔ ∃ alone, single variant = .ok alone := by
    simp only [single_eq_ok_iff]
    exact ⟨fun ⟨element, h⟩ => ⟨⟨0, element⟩, rfl, h⟩, fun ⟨alone, _, h⟩ => ⟨alone.element, h⟩⟩
  rw [around, hprimitive]
  split_ifs with hvariant
  · simp [hvariant, eq_comm]
  · cases single variant <;> simp [hvariant, eq_comm]

namespace Construction

variable {c : Construction} {tag : TypeTag}

lemma exists_build_eq_ok_iff : (∃ tag, c.build = .ok tag) ↔ c.IsSupported := by
  induction c with
  | single variant =>
    simp only [build, single_eq_ok_iff, IsSupported]
    exact ⟨fun ⟨tag, _, h⟩ => ⟨tag.element, h⟩, fun ⟨element, h⟩ => ⟨⟨0, element⟩, rfl, h⟩⟩
  | around variant value ih =>
    simp only [build, Except.bind_eq_ok_iff, around_eq_ok_iff, IsSupported, ← ih]
    constructor
    · rintro ⟨tag, inner, hinner, hvariant, rfl⟩
      exact ⟨hvariant, inner, hinner⟩
    · rintro ⟨hvariant, inner, hinner⟩
      exact ⟨_, inner, hinner, hvariant, rfl⟩

lemma unwrapFrom_of_build (h : c.build = .ok tag) (passed : Nat) :
    c.unwrapFrom passed = (passed + tag.depth, (tag.element.variant : Int)) := by
  induction c generalizing passed tag with
  | single variant =>
    obtain ⟨hdepth, hvariant⟩ := single_eq_ok_iff.mp h
    rw [unwrapFrom, hdepth, hvariant, Nat.add_zero]
  | around variant value ih =>
    obtain ⟨inner, hinner, h⟩ := Except.bind_eq_ok_iff.mp h
    obtain ⟨-, rfl⟩ := around_eq_ok_iff.mp h
    rw [unwrapFrom, ih hinner, Nat.add_assoc, Nat.add_comm 1]

/-- A tag consists of what can be told from its construction. -/
lemma unwrap_of_build (h : c.build = .ok tag) :
    c.unwrap = (tag.depth, (tag.element.variant : Int)) := by
  rw [unwrap, unwrapFrom_of_build h, Nat.zero_add]

end Construction

/-! ## Bytes, text and type -/

lemma eq_of_unwrap_eq {a b : TypeTag} (h : a.unwrap = b.unwrap) : a = b := by
  obtain ⟨depth, element⟩ := a
  obtain ⟨depth', element'⟩ := b
  obtain ⟨rfl, hvariant⟩ := Prod.mk.inj h
  have helement : Primitive.ofVariant? element.variant = some element' :=
    Primitive.ofVariant?_eq_some_iff.mpr hvariant.symm
  rw [Primitive.ofVariant?_eq_some_iff.mpr rfl] at helement
  obtain rfl := Option.some.inj helement
  rfl

/-- A tag is read back from its bytes. -/
lemma exists_write_eq_ok (tag : TypeTag) :
    ∃ bytes, tag.write.toExcept = .ok bytes ∧ reader.readAll bytes = .ok tag :=
  ⟨_, isFormat.toExcept_write trivial, isFormat.readAll_spell trivial⟩

lemma write_inj {a b : TypeTag} (h : a.write.toExcept = b.write.toExcept) : a = b := by
  obtain ⟨bytes, hbytes, hread⟩ := exists_write_eq_ok a
  obtain ⟨bytes', hbytes', hread'⟩ := exists_write_eq_ok b
  obtain rfl := Except.ok.inj (hbytes.symm.trans (h.trans hbytes'))
  exact Except.ok.inj (hread.symm.trans hread')

lemma toText_inj {a b : TypeTag} (h : a.toText = b.toText) : a = b :=
  Option.some.inj ((ofText?_toText a).symm.trans (h ▸ ofText?_toText b))

/-- **The forms of a tag agree.**  A tag can be put together from numbers of types around that of a
primitive type, and has as many layers as there are numbers around.  It is read back from its
bytes and from its text, and its type in signatures has it as its tag.  Tags are the same when what
can be told from their constructions is, when their bytes are, and when their texts are. -/
theorem build_forms_agree :
    (∀ c : Construction, (∃ tag, c.build = .ok tag) ↔ c.IsSupported) ∧
    (∀ (c : Construction) (tag : TypeTag), c.build = .ok tag →
      c.unwrap = (tag.depth, (tag.element.variant : Int)) ∧
      (∃ bytes, tag.write.toExcept = .ok bytes ∧ reader.readAll bytes = .ok tag) ∧
      ofText? tag.toText = some tag ∧
      (MoveType.ofTypeTag tag).toTypeTag = .ok tag) ∧
    ∀ (c d : Construction) (a b : TypeTag), c.build = .ok a → d.build = .ok b →
      (a = b ↔ c.unwrap = d.unwrap) ∧
      (a = b ↔ a.write.toExcept = b.write.toExcept) ∧
      (a = b ↔ a.toText = b.toText) := by
  refine ⟨fun c => Construction.exists_build_eq_ok_iff, fun c tag hc => ?_,
    fun c d a b hc hd => ⟨?_, ⟨fun h => h ▸ rfl, write_inj⟩, ⟨congrArg toText, toText_inj⟩⟩⟩
  · exact ⟨Construction.unwrap_of_build hc, exists_write_eq_ok tag, ofText?_toText tag,
      MoveType.toTypeTag_eq_ok_iff.mpr (MoveType.toTypeTag?_ofTypeTag tag)⟩
  · rw [Construction.unwrap_of_build hc, Construction.unwrap_of_build hd]
    constructor
    · rintro rfl
      rfl
    · intro h
      obtain ⟨hdepth, hvariant⟩ := Prod.mk.inj h
      exact eq_of_unwrap_eq (Prod.ext hdepth (Int.ofNat.inj hvariant))

/-- The number of a primitive type around another one counts as a vector. -/
theorem build_forms_agree_address :
    (Construction.around 4 (.around 6 (.single 10))).build = .ok ⟨2, .u256⟩ ∧
    reader.readAll [6, 6, 10] = .ok ⟨2, .u256⟩ ∧
    ofText? "vector<vector<u256>>" = some ⟨2, .u256⟩ ∧
    (⟨2, .u256⟩ : TypeTag).toText ≠ toText ⟨1, .u256⟩ := by
  have hbuild : (Construction.around 4 (.around 6 (.single 10))).build = .ok ⟨2, .u256⟩ := rfl
  have hinner : (Construction.around 6 (.single 10)).build = .ok ⟨1, .u256⟩ := rfl
  obtain ⟨-, ⟨bytes, hbytes, hread⟩, htext, -⟩ := build_forms_agree.2.1 _ _ hbuild
  obtain ⟨-, -, hne⟩ := build_forms_agree.2.2 _ _ _ _ hbuild hinner
  obtain rfl : [6, 6, 10] = bytes := Except.ok.inj hbytes
  exact ⟨hbuild, hread, htext, mt hne.mpr (by decide)⟩

end MovePack.TypeTag
