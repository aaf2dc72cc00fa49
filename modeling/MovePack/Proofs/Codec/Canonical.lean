/-
# Canonical bytes

The bytes of an artifact are not unique, since the reader takes padded numerals.  They are unique
among the bytes without padding: these are the ones that writing the artifact gives again.
-/
import MovePack.Proofs.Codec.RoundTrip

namespace MovePack

namespace Codec

namespace IsFormat

variable {α : Type} {write : α → Written WriteFault} {reader : Reader α}
  {layout : α → List Piece} {Fits : α → Prop}

/-- What was read is written again in at most as many bytes, and in the same bytes exactly when no
numeral among them is padded. -/
lemma exists_write_eq_iff (h : IsFormat write reader layout Fits) {a : α} {b : Bytes}
    (hread : reader.readAll b = .ok a) :
    ∃ c, (write a).toExcept = .ok c ∧ reader.readAll c = .ok a ∧ c.length ≤ b.length ∧
      (c = b ↔ Unpadded (layout a) b) := by
  obtain ⟨ha, hspelled⟩ := h.readAll_eq_ok_iff.mp hread
  refine ⟨_, h.toExcept_write ha, h.readAll_spell ha, hspelled.length_le, ?_⟩
  simpa using hspelled.eq_spell_iff

/-- A value has at most one form without padding. -/
lemma eq_of_unpadded (h : IsFormat write reader layout Fits) {a : α} {b b' : Bytes}
    (hb : reader.readAll b = .ok a) (hb' : reader.readAll b' = .ok a)
    (hunpadded : Unpadded (layout a) b) (hunpadded' : Unpadded (layout a) b') : b = b' := by
  obtain ⟨c, hc, -, -, hiff⟩ := h.exists_write_eq_iff hb
  obtain ⟨c', hc', -, -, hiff'⟩ := h.exists_write_eq_iff hb'
  obtain rfl := Except.ok.inj (hc.symm.trans hc')
  exact (hiff.mpr hunpadded).symm.trans (hiff'.mpr hunpadded')

end IsFormat

end Codec

open Codec (Unpadded)

/-- **Artifacts are canonical up to padding.**  The bytes that a transaction, a bundle or a type tag
was read from are those of the artifact exactly when no count and no number of a type among them is
padded, and never fewer.  Without padding there are no two different forms of one artifact. -/
theorem encode_ofBytes_eq_iff_unpadded (b : Bytes) :
    (∀ tx, ScriptTransaction.ofBytes b = .ok tx →
      (∃ c, tx.encode = .ok c ∧ ScriptTransaction.ofBytes c = .ok tx ∧ c.length ≤ b.length ∧
        (c = b ↔ Unpadded tx.layout b)) ∧
      ∀ b', ScriptTransaction.ofBytes b' = .ok tx → Unpadded tx.layout b → Unpadded tx.layout b' →
        b = b' ∧ ScriptTransaction.callHash b = ScriptTransaction.callHash b') ∧
    (∀ bundle, ModuleBundle.ofBytes b = .ok bundle →
      (∃ c, bundle.encode = .ok c ∧ ModuleBundle.ofBytes c = .ok bundle ∧ c.length ≤ b.length ∧
        (c = b ↔ Unpadded bundle.layout b)) ∧
      ∀ b', ModuleBundle.ofBytes b' = .ok bundle → Unpadded bundle.layout b →
        Unpadded bundle.layout b' → b = b') ∧
    ∀ tag, TypeTag.reader.readAll b = .ok tag →
      (∃ c, tag.write.toExcept = .ok c ∧ TypeTag.reader.readAll c = .ok tag ∧
        c.length ≤ b.length ∧ (c = b ↔ Unpadded tag.layout b)) ∧
      ∀ b', TypeTag.reader.readAll b' = .ok tag → Unpadded tag.layout b →
        Unpadded tag.layout b' → b = b' := by
  refine ⟨fun tx h => ?_, fun bundle h => ?_, fun tag h => ?_⟩
  · have hformat := ScriptTransaction.isFormat
    refine ⟨hformat.exists_write_eq_iff h, fun b' h' hb hb' => ?_⟩
    obtain rfl := hformat.eq_of_unpadded h h' hb hb'
    exact ⟨rfl, rfl⟩
  · have hformat := ModuleBundle.isFormat
    exact ⟨hformat.exists_write_eq_iff h, fun b' h' => hformat.eq_of_unpadded h h'⟩
  · exact ⟨TypeTag.isFormat.exists_write_eq_iff h, fun b' h' => TypeTag.isFormat.eq_of_unpadded h h'⟩

/-- A tag whose numbers are not padded. -/
theorem encode_ofBytes_vectorOfU8 :
    TypeTag.reader.readAll [6, 1] = .ok ⟨1, .u8⟩ ∧
      (⟨1, .u8⟩ : TypeTag).write.toExcept = .ok [6, 1] := by
  have hread : TypeTag.reader.readAll [6, 1] = .ok ⟨1, .u8⟩ := by decide
  obtain ⟨⟨c, hc, -, -, hiff⟩, -⟩ := (encode_ofBytes_eq_iff_unpadded _).2.2 _ hread
  obtain rfl := hiff.mpr (by decide)
  exact ⟨hread, hc⟩

/-- A count of no modules may take two bytes, and a transaction of nothing then has another hash. -/
theorem ofBytes_padded_count :
    ModuleBundle.ofBytes [0x80, 0] = .ok ⟨[]⟩ ∧ ModuleBundle.ofBytes [0] = .ok ⟨[]⟩ ∧
      ModuleBundle.encode ⟨[]⟩ = .ok [0] ∧
    ScriptTransaction.ofBytes [0x80, 0, 0, 0] = .ok ⟨[], [], []⟩ ∧
      ScriptTransaction.ofBytes [0, 0, 0] = .ok ⟨[], [], []⟩ ∧
      ScriptTransaction.callHash [0x80, 0, 0, 0] ≠ ScriptTransaction.callHash [0, 0, 0] := by
  have hencode : ModuleBundle.encode ⟨[]⟩ = .ok [0] := by
    rw [ModuleBundle.encode, ModuleBundle.isFormat.toExcept_write (by simp [ModuleBundle.Fits])]
    cbv
  exact ⟨by decide, by decide, hencode, by decide, by decide, by decide +kernel⟩

end MovePack
