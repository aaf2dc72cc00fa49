/-
# What is left in a buffer

The writers into a buffer check a value before they put anything of it, so that only a sequence can
stop halfway.  What a series of steps leaves behind is what the steps contribute, one after the
other, whichever of them fail.  A step that fails does so for a fault of its value, unless an
integer that is out of range has too many digits to be shown: then the fault is not one of the
value, but the buffer is left as it was all the same.
-/
import MovePack.Codec.Buffer
import MovePack.Proofs.Codec.Contribution

namespace MovePack.Codec

namespace Buffer

variable {α β : Type}

/-! ## What writers put -/

/-- How the writing of a part ends. -/
def outcome (part : Written WriteFault) : Except WriteFault Unit := part.fault?.elim (.ok ()) .error

/-- Whatever is in the buffer, the writer puts the bytes of the part behind it, and ends as the
writing of the part does. -/
def Puts (w : Writer Unit) (part : Written WriteFault) : Prop :=
  ∀ buffer, run w buffer = (outcome part, buffer ++ part.bytes)

lemma run_bind (w : Writer α) (next : α → Writer β) (buffer : Bytes) :
    run (w >>= next) buffer =
      match run w buffer with
      | (.ok a, after) => run (next a) after
      | (.error fault, after) => (.error fault, after) := by
  unfold run
  rw [ExceptT.run_bind, StateT.run_bind]
  rcases (ExceptT.run w).run buffer with ⟨_ | a, after⟩ <;> rfl

namespace Puts

variable {w w' : Writer Unit} {part part' : Written WriteFault}

/-- A writer that has failed keeps the ones after it from putting anything. -/
lemma append (h : Puts w part) (h' : Puts w' part') :
    Puts (do w; w') (part ++ part') := by
  intro buffer
  obtain ⟨bytes, fault?⟩ := part
  cases fault? with
  | some fault =>
    rw [run_bind, h]
    rfl
  | none =>
    rw [run_bind, h]
    change run w' (buffer ++ bytes) = (outcome part', buffer ++ (bytes ++ part'.bytes))
    rw [h', List.append_assoc]

lemma put (bytes : Bytes) : Puts (put bytes) (Written.fixed bytes) := fun _ => rfl

lemma pure : Puts (Pure.pure ()) ⟨[], none⟩ := fun buffer => by
  rw [List.append_nil]
  rfl

lemma refusal (fault : WriteFault) : Puts (throw fault) (Written.failed fault) :=
  fun buffer => by
    change (Except.error fault, buffer) = (_, buffer ++ [])
    rw [List.append_nil]
    rfl

/-- What is checked before it is put leaves nothing behind if it is refused. -/
lemma check {c : Prop} [Decidable c] {fault : WriteFault} (h : ¬ c → Puts w part) :
    Puts
      (do
        if c then throw fault
        w)
      (if c then Written.failed fault else part) := by
  split_ifs with hc
  · exact refusal fault
  · exact h hc

lemma int {value : Int} {width : Nat} (h : 0 ≤ value ∧ value < (Nat.pow 2 (8 * width) : ℕ)) :
    Puts (int value width) ⟨Bytes.littleEndian width value.toNat, none⟩ := by
  rw [Buffer.int, if_neg (by omega)]
  exact put _

lemma byte {value : Nat} (h : value < 256) :
    Puts (Buffer.int value 1) ⟨[UInt8.ofNat value], none⟩ := by
  have hbytes : Bytes.littleEndian 1 value = [UInt8.ofNat value] := by
    rw [Bytes.littleEndian, Bytes.littleEndian, Nat.mod_eq_of_lt h]
  have hfits : (value : Int) < (Nat.pow 2 (8 * 1) : ℕ) := Int.ofNat_lt.mpr h
  rw [← hbytes]
  exact int ⟨by omega, hfits⟩

lemma uint (width : Nat) (value : Int) : Puts (uint width value) (Written.uint width value) := by
  have hrange : (value < 0 ∨ ((Nat.pow 2 (8 * width) : ℕ) : Int) ≤ value) ↔
      (value < 0 ∨ ((Nat.pow 2 (8 * width) : ℕ) : Int) - 1 < value) := by omega
  rw [Written.uint, if_congr hrange rfl rfl]
  refine check fun h => int ?_
  omega

/-- Every group fits into its byte, and together they are the numeral of the number. -/
lemma groups (value : Nat) : Puts (groups value) ⟨Written.ulebBytes value, none⟩ := by
  induction value using Buffer.groups.induct with
  | case1 value hmore ih =>
    rw [Buffer.groups, dif_pos hmore, Written.ulebBytes, dif_neg (by omega)]
    exact (byte (by omega)).append ih
  | case2 value hlast =>
    rw [Buffer.groups, dif_neg hlast, Written.ulebBytes, dif_pos (by omega),
      Nat.mod_eq_of_lt (by omega)]
    exact byte (by omega)

lemma uleb (value : Int) : Puts (uleb value) (Written.uleb value) :=
  Puts.check fun _ => groups _

lemma count (n : Nat) : Puts (count n) (Written.count n) := Puts.check fun _ => groups _

lemma countedBytes (bytes : Bytes) : Puts (countedBytes bytes) (Written.countedBytes bytes) :=
  (count _).append (put _)

lemma text (t : Text) : Puts (text t) (Written.text t) := by
  intro buffer
  rw [Buffer.text, Written.text, run_bind, Buffer.encoded]
  cases Utf8.encode t with
  | ok bytes => exact countedBytes bytes buffer
  | error fault => exact refusal (.notUnicode fault) buffer

lemma bool (b : Bool) : Puts (Buffer.int (if b then 1 else 0) 1) (Written.bool b) := by
  cases b with
  | false => exact @byte 0 (by decide)
  | true => exact @byte 1 (by decide)

lemma forM {write : α → Writer Unit} {writtenOf : α → Written WriteFault}
    (h : ∀ v, Puts (write v) (writtenOf v)) (values : List α) :
    Puts (values.forM write) (Written.concat (values.map writtenOf)) := by
  induction values with
  | nil => exact pure
  | cons v values ih => exact (h v).append ih

/-- The numbers of a type tag are small. -/
lemma typeTag (tag : TypeTag) : Puts (typeTag tag) tag.write := by
  have huleb : ∀ n : Nat, n ≤ maxCount → Puts (Buffer.uleb n) ⟨(Piece.number n).bytes, none⟩ := by
    intro n hn
    have hwritten := uleb n
    rwa [Written.uleb_of_le hn] at hwritten
  have hvectors := forM (fun _ => huleb TypeTag.vectorVariant (by decide)) (List.range tag.depth)
  have helement := huleb tag.element.variant (by cases tag.element <;> decide)
  have hdepth : List.replicate tag.depth (Piece.number TypeTag.vectorVariant) =
      (List.range tag.depth).map fun _ => .number TypeTag.vectorVariant := by
    rw [List.map_const', List.length_range]
  rw [Written.concat_map_complete fun _ _ => rfl] at hvectors
  rw [TypeTag.write_eq_spell_layout, TypeTag.layout, spell_append, hdepth, spell,
    List.flatMap_map, spell_cons, spell_nil, List.append_nil]
  exact hvectors.append helement

lemma sequence {write : α → Writer Unit} {writtenOf : α → Written WriteFault}
    (h : ∀ v, Puts (write v) (writtenOf v)) (values : List α) :
    Puts (sequence write values) (Written.sequence writtenOf values) := by
  rw [Written.sequence_eq]
  exact (count _).append (forM h values)

end Puts

/-- The writers of the library write what is put into a buffer. -/
lemma puts_write (t : Schema) (v : t.Carrier) : Puts (write t v) (t.write v) := by
  induction t with
  | bool => exact .bool v
  | uint width => exact .uint width v
  | uleb => exact .uleb v
  | bytes => exact .countedBytes v
  | fixed length => exact .put v
  | rest => exact .put v
  | text => exact .text v
  | address => exact .put v.bytes
  | typeTag => exact .typeTag v
  | sequence element ih => exact .sequence ih v

/-! ## Runs -/

/-- One step puts what its value contributes behind whatever is in the buffer. -/
lemma exists_run_step (step : Step) (buffer : Bytes) :
    ∃ part, step.schema.Contributes step.value part ∧
      run (write step.schema step.value) buffer = (outcome part, buffer ++ part.bytes) :=
  ⟨_, Schema.contributes_iff.mpr rfl, puts_write _ _ buffer⟩

/-- Series of steps put what their values contribute, one after the other. -/
lemma exists_runSteps (steps : List Step) (buffer : Bytes) :
    ∃ parts : List (Written WriteFault),
      List.Forall₂ (fun step part => step.schema.Contributes step.value part) steps parts ∧
      runSteps steps buffer = (parts.map outcome, buffer ++ parts.flatMap Written.bytes) := by
  induction steps generalizing buffer with
  | nil => exact ⟨[], .nil, by simp [runSteps]⟩
  | cons step steps ih =>
    obtain ⟨part, hpart, hrun⟩ := exists_run_step step buffer
    obtain ⟨parts, hparts, hsteps⟩ := ih (buffer ++ part.bytes)
    refine ⟨part :: parts, .cons hpart hparts, ?_⟩
    rw [runSteps, hrun, hsteps, List.map_cons, List.flatMap_cons, List.append_assoc]

/-- **Failing steps leave no trace but in sequences.**  A step contributes what the library writes
for its value, and nothing else.  After any series of steps there is behind the former bytes what
the steps contribute, one after the other, and each step has ended as its contribution does: well,
for a fault of the value, or because an integer in the value has too many digits to be shown where
its fault is made, and not for any other cause. -/
theorem runSteps_contributes (steps : List Step) (buffer : Bytes) :
    (∀ (step : Step) part,
      step.schema.Contributes step.value part ↔ step.schema.write step.value = part) ∧
    (∃ parts : List (Written WriteFault),
      List.Forall₂ (fun step part => step.schema.Contributes step.value part) steps parts ∧
      runSteps steps buffer = (parts.map outcome, buffer ++ parts.flatMap Written.bytes)) ∧
    ∀ (step : Step) part fault, step.schema.Contributes step.value part →
      part.fault? = some fault → fault.IsOfValue ∨ ∃ n ∈ step.schema.integers step.value,
        fault = .foreign (.unshown n) ∧ 10 ^ Text.maxShownDigits ≤ n.natAbs :=
  ⟨fun _ _ => Schema.contributes_iff, exists_runSteps steps buffer,
    fun _ _ _ h => h.isOfValue_or⟩

/-- An integer of 4301 digits is refused, but not for a fault of the value, as one of fewer digits
is.  It contributes nothing. -/
theorem runSteps_unshown :
    runSteps [⟨.uint 1, (10 ^ 4300 : Int)⟩, ⟨.uint 1, (256 : Int)⟩] [] =
      ([.error (.foreign (.unshown (10 ^ 4300))), .error (.outOfRange 256 "u8")], []) ∧
    ¬ (WriteFault.foreign (.unshown (10 ^ 4300))).IsOfValue :=
  ⟨by decide +kernel, fun h => h _ rfl⟩

/-- A row of rows that fails in its second row leaves what is before that, and a text with a
surrogate leaves nothing. -/
example : runSteps
    [⟨.sequence (.sequence (.uint 1)), [[7], [8, 256, 9], []]⟩,
      ⟨.text, [.scalar 'a', .surrogate 0]⟩, ⟨.uleb, (300 : Int)⟩] [0xFF] =
    ([.error (.outOfRange 256 "u8"), .error (.notUnicode ⟨.utf8, 1, .surrogate 0, 1⟩), .ok ()],
      [0xFF, 3, 1, 7, 3, 8, 0xAC, 0x02]) := by
  decide +kernel

end Buffer

end MovePack.Codec
