/-
# Values that are put between quotes

A value of a textual type is put between quotes, unless it begins like an array, and then read as a
JSON text.  Whatever the value holds, this text is one string or nothing: the quote that is put
behind the value is the one that ends the string, or it is left over, or it is missing because a
backslash stands before it.  So the value is encoded as the text that it stands for with its
escapes, or it is refused.
-/
import MovePack.Proofs.Json.Strings
import MovePack.Proofs.Script.Nesting

namespace MovePack.Argument

open Json (IsEscaped IsPlain trailingBackslashes)

variable {name v : Text} {type : ArgType}

lemma ofText_of_colon (hname : CodePoint.scalar ':' ∉ name)
    (htype : ArgType.ofText name = .ok type) :
    ofText (name ++ ":" ++ v) =
      match Json.ofText (jsonText type v) with
      | .error fault => .error (.invalidJson v fault)
      | .ok literal => type.encodeJson literal := by
  have hsplit : Text.splitFirst? ':' (name ++ ":" ++ v) = some (name, v) := by
    rw [List.append_assoc]
    exact Text.splitFirst?_eq_some hname v
  rw [ofText, hsplit]
  simp only [htype]
  rfl

lemma jsonText_of_textual (htextual : type.isTextual = true) (hv : v.head? ≠ some (.scalar '[')) :
    jsonText type v = v.between '\x22' := by
  have hbracket : v.startsWith "[" = false := by
    rw [Text.startsWith, Bool.eq_false_iff, Ne, List.isPrefixOf_iff_prefix]
    rintro ⟨rest, rfl⟩
    exact hv rfl
  rw [jsonText, hbracket, htextual]
  rfl

lemma encodeJson_str (type : ArgType) (s : Text) :
    type.encodeJson (.str s) = (type.encodeText s).map fun bytes => ⟨bytes, 0⟩ :=
  ArgType.encodeJson_of_ne_arr (by rintro _ ⟨⟩)

section Textual

variable (hname : CodePoint.scalar ':' ∉ name) (htype : ArgType.ofText name = .ok type)
  (htextual : type.isTextual = true) (hv : v.head? ≠ some (.scalar '['))
include hname htype htextual hv

/-- A value that stands for a text is encoded as this text. -/
lemma ofText_of_isEscaped {s : Text} (hs : IsEscaped v s) :
    ofText (name ++ ":" ++ v) = (type.encodeText s).map fun bytes => ⟨bytes, 0⟩ := by
  have hread := Json.ofText_between_eq_ok_iff.mpr ⟨s, hs, rfl⟩
  rw [ofText_of_colon hname htype, jsonText_of_textual htextual hv, hread]
  exact encodeJson_str type s

/-- A value that stands for no text is refused. -/
lemma exists_ofText_eq_invalidJson (hnone : ∀ s, ¬ IsEscaped v s) :
    ∃ fault, ofText (name ++ ":" ++ v) = .error (.invalidJson v fault) := by
  rw [ofText_of_colon hname htype, jsonText_of_textual htextual hv]
  cases hread : Json.ofText (v.between '\x22') with
  | error fault => exact ⟨fault, rfl⟩
  | ok literal =>
    obtain ⟨s, hs, -⟩ := Json.ofText_between_eq_ok_iff.mp hread
    exact absurd hs (hnone s)

end Textual

/-- **A value cannot break out of its quotes.**  A value of a textual type that does not begin like
an array is read as the one text that all of it stands for, or not at all.  It is encoded as this
text, or refused.  A value in which no character is escaped stands for itself, and one in which a
quote does not follow an odd number of backslashes, or which ends in an odd number of them, is
refused. -/
theorem ofText_textual (hname : CodePoint.scalar ':' ∉ name)
    (htype : ArgType.ofText name = .ok type) (htextual : type.isTextual = true)
    (hv : v.head? ≠ some (.scalar '[')) :
    (∀ literal, Json.ofText (jsonText type v) = .ok literal ↔
      ∃ s, IsEscaped v s ∧ literal = .str s) ∧
    (∀ s, IsEscaped v s →
      ofText (name ++ ":" ++ v) = (type.encodeText s).map fun bytes => ⟨bytes, 0⟩) ∧
    ((∀ s, ¬ IsEscaped v s) →
      ∃ fault, ofText (name ++ ":" ++ v) = .error (.invalidJson v fault)) ∧
    ((∀ c ∈ v, IsPlain c) →
      ofText (name ++ ":" ++ v) = (type.encodeText v).map fun bytes => ⟨bytes, 0⟩) ∧
    (∀ before after, v = before ++ .scalar '\x22' :: after → ¬ Odd (trailingBackslashes before) →
      ∃ fault, ofText (name ++ ":" ++ v) = .error (.invalidJson v fault)) ∧
    (Odd (trailingBackslashes v) →
      ∃ fault, ofText (name ++ ":" ++ v) = .error (.invalidJson v fault)) := by
  refine ⟨fun literal => ?_, fun s => ofText_of_isEscaped hname htype htextual hv,
    exists_ofText_eq_invalidJson hname htype htextual hv, fun hplain => ?_,
    fun before after hquote hodd => ?_, fun hodd => ?_⟩
  · rw [jsonText_of_textual htextual hv]
    exact Json.ofText_between_eq_ok_iff
  · exact ofText_of_isEscaped hname htype htextual hv (Json.isEscaped_self hplain)
  · exact exists_ofText_eq_invalidJson hname htype htextual hv fun s hs =>
      hodd (hs.backslashes.1 before after hquote)
  · exact exists_ofText_eq_invalidJson hname htype htextual hv fun s hs =>
      Nat.not_odd_iff_even.mpr hs.backslashes.2 hodd

/-- The numbers of two surrogates that belong together are one character, in front of a quote that
is escaped. -/
theorem ofText_textual_escapes :
    CodePoint.scalar ':' ∉ ("STRING" : Text) ∧ ArgType.ofText "STRING" = .ok .string ∧
    ArgType.string.isTextual = true ∧
    ("\\ud83d\\ude00\\\"" : Text).head? ≠ some (.scalar '[') ∧
    IsEscaped "\\ud83d\\ude00\\\"" "😀\"" ∧
    ofText ("STRING" ++ ":" ++ "\\ud83d\\ude00\\\"") =
      .ok ⟨[5, 0xF0, 0x9F, 0x98, 0x80, 0x22], 0⟩ := by
  have hname : CodePoint.scalar ':' ∉ ("STRING" : Text) := by decide
  have htype : ArgType.ofText "STRING" = .ok .string := by decide +kernel
  have hvalue : ("\\ud83d\\ude00\\\"" : Text).head? ≠ some (.scalar '[') := by decide
  have hescaped : IsEscaped "\\ud83d\\ude00\\\"" "😀\"" := by
    refine ⟨[.number 'd' '8' '3' 'd' (.surrogate 0x3D), .number 'd' 'e' '0' '0' (.surrogate 0x600),
      .letter '"' '"'], ?_, by decide, by decide +kernel⟩
    simp only [List.forall_mem_cons, List.not_mem_nil, false_imp_iff, implies_true, and_true]
    exact ⟨⟨13, 8, 3, 13, rfl, rfl, rfl, rfl, rfl⟩, ⟨13, 14, 0, 0, rfl, rfl, rfl, rfl, rfl⟩,
      List.mem_cons_self⟩
  have hbytes : ArgType.string.encodeText "😀\"" = .ok [5, 0xF0, 0x9F, 0x98, 0x80, 0x22] := by
    decide +kernel
  obtain ⟨-, hencode, -⟩ := ofText_textual hname htype rfl hvalue
  refine ⟨hname, htype, rfl, hvalue, hescaped, ?_⟩
  rw [hencode _ hescaped, hbytes]
  rfl

end MovePack.Argument
