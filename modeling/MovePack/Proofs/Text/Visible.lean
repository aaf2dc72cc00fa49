/-
# Visible characters

The characters of ASCII beyond the space and below the last control character.  They are no white
space, so a text of them is kept as it is when white space is dropped at its end.
-/
import Mathlib.Data.List.DropRight
import MovePack.Text.Blank

namespace MovePack

/-- A visible character of ASCII. -/
def CodePoint.IsVisible (c : CodePoint) : Prop := 0x21 ≤ c.toNat ∧ c.toNat < 0x7F

instance (c : CodePoint) : Decidable c.IsVisible := inferInstanceAs (Decidable (_ ∧ _))

namespace CodePoint.IsVisible

variable {c : CodePoint}

lemma isAscii (h : c.IsVisible) : c.isAscii = true :=
  decide_eq_true (by have := h.2; omega)

lemma isBlank (h : c.IsVisible) : c.isBlank = false := by
  obtain ⟨hlow, hhigh⟩ := h
  have hspace : c.isWhiteSpace = false := by
    simp only [CodePoint.isWhiteSpace, whiteSpaceRanges, CharacterRange.contains]
    rw [if_neg (by omega), if_neg (by omega), if_pos (by omega)]
    simp only [decide_eq_false_iff_not]
    omega
  have hseparator : ¬ c.toNat ≤ 0x1F := by omega
  simp [CodePoint.isBlank, hspace, hseparator]

end CodePoint.IsVisible

/-- What is no white space is not dropped. -/
lemma Text.mem_dropEndWhile_isBlank {t : Text} {c : CodePoint} (hc : c ∈ t)
    (hblank : c.isBlank = false) : c ∈ t.dropEndWhile CodePoint.isBlank := by
  rw [← List.rdropWhile_append_rtakeWhile (p := CodePoint.isBlank) (l := t)] at hc
  rcases List.mem_append.mp hc with hkept | hdropped
  · exact hkept
  · simp [List.mem_rtakeWhile_imp hdropped] at hblank

@[simp] lemma Text.dropEndWhile_dropEndWhile (drops : CodePoint → Bool) (t : Text) :
    (t.dropEndWhile drops).dropEndWhile drops = t.dropEndWhile drops :=
  List.rdropWhile_idempotent drops t

/-- Nothing is dropped exactly when the last character is kept. -/
lemma Text.dropEndWhile_eq_self_iff {drops : CodePoint → Bool} {t : Text} :
    t.dropEndWhile drops = t ↔ ∀ c ∈ t.getLast?, drops c = false := by
  rw [Text.dropEndWhile, ← List.rdropWhile, List.rdropWhile_eq_self_iff]
  constructor
  · intro h c hc
    obtain ⟨hne, rfl⟩ := List.mem_getLast?_eq_getLast hc
    simpa using h hne
  · intro h hne
    simpa using h _ (List.getLast_mem_getLast? hne)

/-- Nothing is dropped at the end of a text of visible characters. -/
lemma Text.dropEndWhile_isBlank {t : Text} (h : ∀ c ∈ t, c.IsVisible) :
    t.dropEndWhile CodePoint.isBlank = t :=
  List.rdropWhile_eq_self_iff.mpr fun hne => by simp [(h _ (List.getLast_mem hne)).isBlank]

end MovePack
