/-
# Reading back what was written

Every schema is a format, by induction on its nesting; so are script transactions and bundles.
Reading therefore undoes writing, and stops where the written bytes end.
-/
import MovePack.Bundle.ModuleBundle
import MovePack.Proofs.Types.TypeTag
import MovePack.Script.Transaction

namespace MovePack

namespace Codec

/-! ## Schemas -/

namespace Schema

/-- A value of the kind ends where its bytes end, whatever follows. -/
def SelfDelimiting : Schema → Prop
  | .rest => False
  | .sequence element => element.SelfDelimiting
  | _ => True

/-- The value is within the limits of the writer. -/
def Fits : (t : Schema) → t.Carrier → Prop
  | .bool, _ => True
  | .uint width, (n : Int) => 0 ≤ n ∧ n < 2 ^ (8 * width)
  | .uleb, (n : Int) => 0 ≤ n ∧ n ≤ maxCount
  | .bytes, b => b.length ≤ maxCount
  | .fixed length, b => b.length = length
  | .rest, _ => True
  | .text, t => (∀ c ∈ t, c.isSurrogate = false) ∧ (Utf8.bytes t).length ≤ maxCount
  | .address, _ => True
  | .typeTag, _ => True
  | .sequence element, values => values.length ≤ maxCount ∧ ∀ v ∈ values, element.Fits v

/-- The layout of a value. -/
def layout : (t : Schema) → t.Carrier → List Piece
  | .bool, b => [.plain [if b then 1 else 0]]
  | .uint width, (n : Int) => [.plain (Bytes.littleEndian width n.toNat)]
  | .uleb, (n : Int) => [.number n.toNat]
  | .bytes, b => countedLayout b
  | .fixed _, b => [.plain b]
  | .rest, b => [.plain b]
  | .text, t => countedLayout (Utf8.bytes t)
  | .address, a => [.plain a.bytes]
  | .typeTag, tag => tag.layout
  | .sequence element, values => sequenceLayout element.layout values

/-- A schema is a format. -/
theorem isFormat {t : Schema} (h : t.SelfDelimiting) :
    IsFormat t.write t.reader t.layout t.Fits := by
  induction t with
  | bool => exact .bool
  | uint width => exact .uint width
  | uleb => exact .uleb
  | bytes => exact .countedBytes
  | fixed length => exact .fixed length
  | rest => exact h.elim
  | text => exact .text
  | address => exact .address
  | typeTag => exact TypeTag.isFormat
  | sequence element ih => exact .sequence (ih h)

end Schema

end Codec

/-! ## Artifacts -/

open Codec (IsFormat Piece countedLayout maxCount sequenceLayout)

namespace ScriptTransaction

/-- The transaction is within the limits of the writer. -/
structure Fits (tx : ScriptTransaction) : Prop where
  bytecode_le : tx.bytecode.length ≤ maxCount
  args_le : tx.args.length ≤ maxCount ∧ ∀ arg ∈ tx.args, arg.length ≤ maxCount
  typeArgs_le : tx.typeArgs.length ≤ maxCount

/-- The layout of a transaction. -/
def layout (tx : ScriptTransaction) : List Piece :=
  countedLayout tx.bytecode ++ sequenceLayout countedLayout tx.args ++
    sequenceLayout TypeTag.layout tx.typeArgs

theorem isFormat : IsFormat write reader layout Fits := by
  have hargs := IsFormat.sequence .countedBytes
  have htypes := IsFormat.sequence TypeTag.isFormat
  constructor
  · intro tx htx
    rw [write, IsFormat.countedBytes.write_eq _ htx.bytecode_le, hargs.write_eq _ htx.args_le,
      htypes.write_eq _ ⟨htx.typeArgs_le, fun _ _ => trivial⟩]
    simp [layout, Codec.Written.complete_append]
  · intro input tx rest
    -- each part is read from where the spelling of the one before it ends
    simp only [reader, Codec.Reader.read_bind_eq_ok_iff, IsFormat.countedBytes.read_iff,
      hargs.read_iff, htypes.read_iff, layout, Codec.spelled_append]
    constructor
    · rintro ⟨bytecode, mid, ⟨hbytecode, h⟩, args, mid', ⟨hargs, h'⟩, types, mid'',
        ⟨htypes, h''⟩, heq⟩
      cases heq
      exact ⟨⟨hbytecode, hargs, htypes.1⟩, mid', ⟨mid, h, h'⟩, h''⟩
    · rintro ⟨htx, mid', ⟨mid, h, h'⟩, h''⟩
      exact ⟨_, mid, ⟨htx.bytecode_le, h⟩, _, mid', ⟨htx.args_le, h'⟩, _, rest,
        ⟨⟨htx.typeArgs_le, fun _ _ => trivial⟩, h''⟩, rfl⟩

/-- A transaction without a serialized form is itself to blame. -/
lemma isOfValue_of_encode {tx : ScriptTransaction} {fault : Codec.WriteFault}
    (h : tx.encode = .error fault) : fault.IsOfValue := by
  have htag : ∀ tag : TypeTag, tag.write.BlamesValue := fun tag => by
    rw [TypeTag.write_eq_spell_layout]
    exact .complete _
  have htx : tx.write.BlamesValue :=
    ((Codec.Written.BlamesValue.countedBytes _).append (.sequence .countedBytes _)).append
      (.sequence htag _)
  exact htx.isOfValue h

end ScriptTransaction

namespace ModuleBundle

/-- The bundle is within the limits of the writer. -/
def Fits (bundle : ModuleBundle) : Prop :=
  bundle.modules.length ≤ maxCount ∧ ∀ code ∈ bundle.modules, code.length ≤ maxCount

/-- The layout of a bundle. -/
def layout (bundle : ModuleBundle) : List Piece := sequenceLayout countedLayout bundle.modules

theorem isFormat : IsFormat write reader layout Fits := by
  have hmodules := IsFormat.sequence .countedBytes
  refine ⟨fun bundle => hmodules.write_eq _, fun input bundle rest => ?_⟩
  simp only [reader, Codec.Reader.read_bind_eq_ok_iff, hmodules.read_iff]
  constructor
  · rintro ⟨modules, mid, ⟨hmodules, h⟩, heq⟩
    cases heq
    exact ⟨hmodules, h⟩
  · rintro ⟨hbundle, h⟩
    exact ⟨_, rest, ⟨hbundle, h⟩, rfl⟩

/-- A bundle without a serialized form is itself to blame. -/
lemma isOfValue_of_encode {bundle : ModuleBundle} {fault : Codec.WriteFault}
    (h : bundle.encode = .error fault) : fault.IsOfValue :=
  (Codec.Written.BlamesValue.sequence .countedBytes bundle.modules).isOfValue h

/-- A bundle that has a serialized form is the one of this form. -/
lemma ofBytes_of_encode {bundle : ModuleBundle} {bytes : Bytes} (h : bundle.encode = .ok bytes) :
    ofBytes bytes = .ok bundle := by
  have hfits : bundle.Fits :=
    Codec.Written.fits_of_toExcept_sequence
      (fun _ _ => Codec.Written.length_le_of_toExcept_countedBytes) h
  obtain rfl := Except.ok.inj (h.symm.trans (isFormat.toExcept_write hfits))
  exact isFormat.readAll_spell hfits

end ModuleBundle

/-- **Reading undoes writing.**  A value of a schema that is within the limits of the writer is
written, and read back from the written bytes whatever follows them, which is what is left over.
A transaction and a bundle are those of their serialized form. -/
theorem read_write :
    (∀ (t : Codec.Schema) (v : t.Carrier), t.SelfDelimiting → t.Fits v →
      ∃ bytes, (t.write v).toExcept = .ok bytes ∧
        ∀ suffix, t.reader.read (bytes ++ suffix) = (.ok v, suffix)) ∧
    (∀ tx : ScriptTransaction, tx.Fits →
      ∃ bytes, tx.encode = .ok bytes ∧ ScriptTransaction.ofBytes bytes = .ok tx) ∧
    ∀ bundle : ModuleBundle, bundle.Fits →
      ∃ bytes, bundle.encode = .ok bytes ∧ ModuleBundle.ofBytes bytes = .ok bundle := by
  refine ⟨fun t v ht hv => ?_, fun tx htx => ?_, fun bundle hbundle => ?_⟩
  · have hformat := Codec.Schema.isFormat ht
    exact ⟨_, hformat.toExcept_write hv, hformat.read_spell_append hv⟩
  · have hformat := ScriptTransaction.isFormat
    exact ⟨_, hformat.toExcept_write htx, hformat.readAll_spell htx⟩
  · have hformat := ModuleBundle.isFormat
    exact ⟨_, hformat.toExcept_write hbundle, hformat.readAll_spell hbundle⟩

/-- Rows of two-byte integers, one of them empty, in front of a byte that is left. -/
theorem read_write_rows :
    (Codec.Schema.sequence (.sequence (.uint 2))).SelfDelimiting ∧
    (Codec.Schema.sequence (.sequence (.uint 2))).Fits [[1, 513], []] ∧
    ((Codec.Schema.sequence (.sequence (.uint 2))).write [[1, 513], []]).toExcept =
      .ok [2, 2, 1, 0, 1, 2, 0] ∧
    (Codec.Schema.sequence (.sequence (.uint 2))).reader.read [2, 2, 1, 0, 1, 2, 0, 9] =
      (.ok [[1, 513], []], [9]) := by
  have hdelimited : (Codec.Schema.sequence (.sequence (.uint 2))).SelfDelimiting := trivial
  have hfits : (Codec.Schema.sequence (.sequence (.uint 2))).Fits [[1, 513], []] := by
    have hcount : 2 ≤ maxCount := by decide
    simp [Codec.Schema.Fits]
    omega
  have hwrite : ((Codec.Schema.sequence (.sequence (.uint 2))).write [[1, 513], []]).toExcept =
      .ok [2, 2, 1, 0, 1, 2, 0] := by
    rw [(Codec.Schema.isFormat hdelimited).toExcept_write hfits]
    cbv
  obtain ⟨bytes, hbytes, hread⟩ := read_write.1 _ _ hdelimited hfits
  obtain rfl := Except.ok.inj (hbytes.symm.trans hwrite)
  exact ⟨hdelimited, hfits, hwrite, hread [9]⟩

end MovePack
