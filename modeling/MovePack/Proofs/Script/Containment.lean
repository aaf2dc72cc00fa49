/-
# Refusals of arguments

Whatever text is given as an argument, reading it ends in an argument or in a refusal of one of five
kinds.  The steps of the reading are shown to be those of the library one after the other: where a
step can stop for another cause, a handler makes it a refusal, or a condition before it holds the
cause off.  An integer is shown and read only when it has few digits, since the JSON reader lets no
others through and a number is measured against its bound before it is read; it is put into bytes
only when it fits; and a list is looked up only at places it has.
-/
import MovePack.Proofs.Account.Stepwise
import MovePack.Proofs.Codec.Buffer
import MovePack.Proofs.Json.Integers
import MovePack.Proofs.Script.Nesting
import MovePack.Script.Stepwise
import MovePack.Script.Transaction

namespace MovePack.Argument

open Codec (Written)
open Stop (catching itemAt refuse)

namespace Stepwise

/-! ## Bytes -/

lemma itemAt_zero {α : Type} (a : α) (l : List α) : itemAt (a :: l) 0 = .ok a := rfl

/-- What a writer puts is a complete part, or a refusal if the faults of the part are faults of the
value. -/
lemma written_eq {w : Codec.Buffer.Writer Unit} {part : Written Codec.WriteFault}
    (h : Codec.Buffer.Puts w part) (hpart : part.BlamesValue) :
    written w = (ArgType.complete part).mapError Stop.ofFault := by
  rw [written, h]
  obtain ⟨bytes, _ | fault⟩ := part
  · rfl
  · cases fault with
    | foreign cause => exact absurd rfl (hpart _ rfl cause)
    | _ => rfl

lemma count_eq (n : Nat) :
    written (Codec.Buffer.count n) = (ArgType.complete (Written.count n)).mapError Stop.ofFault :=
  written_eq (.count n) (.count n)

lemma counted_eq (bytes : Bytes) :
    written (Codec.Buffer.countedBytes bytes) =
      (ArgType.complete (Written.countedBytes bytes)).mapError Stop.ofFault :=
  written_eq (.countedBytes bytes) (.countedBytes bytes)

lemma textBytes_eq (t : Text) :
    written (Codec.Buffer.text t) = (ArgType.complete (Written.text t)).mapError Stop.ofFault :=
  written_eq (.text t) (.text t)

lemma hexBytes_eq (t : Text) : hexBytes t = (ArgType.hexBytes t).mapError Stop.ofFault := by
  rw [hexBytes, unhexed, ArgType.hexBytes, Hex.decodeMarked]
  cases Hex.decode ((t.dropPrefix? "0x").getD t) <;> rfl

lemma text_of_address (t : Text) :
    (Address.Stepwise.parse t).map Address.bytes =
      (ArgType.addressBytes t).mapError Stop.ofFault := by
  rw [Address.Stepwise.parse_eq, ArgType.addressBytes]
  cases Address.parse t <;> rfl

/-! ## Numbers and truth values -/

lemma bool_eq (t : Text) : bool t = (Literal.bool t).mapError Stop.ofFault := by
  rw [bool, Literal.bool]
  split_ifs <;> rfl

lemma shown_of_lt {i : Int} (h : i.natAbs < 10 ^ Json.maxDigits) :
    shown i = .ok (Text.ofInt i) := by
  have hlimit : Json.maxDigits = Text.maxShownDigits := rfl
  rw [hlimit] at h
  rw [shown, Text.shown?_of_lt h, Option.elim_some]

/-- A number with more digits than the bound exceeds it, and one with no more digits than the bound
can be read. -/
lemma unsigned_eq {bound : Nat} (hbound : bound < 10 ^ Json.maxDigits) (type t : Text) :
    unsigned bound type t = (Literal.unsigned bound type t).mapError Stop.ofFault := by
  rw [unsigned, Literal.unsigned]
  cases hdigits : Literal.digits? ((t.dropPrefix? "+").getD t) with
  | none => rfl
  | some ds =>
    obtain ⟨ds', hds', hvalue, hlength⟩ := Literal.exists_digits?_significantDigits hdigits
    have hpos := Literal.length_ofInt_natCast_pos bound
    have hle := Literal.length_ofInt_le (by decide : 0 < Json.maxDigits) hbound
    rw [if_neg (by simp), Literal.dropWhile_plus hdigits, shown_of_lt (by simpa using hbound)]
    simp only [Except.ok_bind]
    by_cases hlong : (Text.ofInt bound).length <
        (Address.significantDigits ((t.dropPrefix? "+").getD t)).length
    · have hlarge : bound < Radix.value 10 ds :=
        (Literal.lt_pow_length_ofInt bound).trans_le (hlength _ hpos hlong)
      rw [if_pos hlong, if_pos hlarge]
      rfl
    · have hshort : ¬ Json.maxDigits < ds'.length := by
        rw [Literal.length_of_digits? hds']
        omega
      rw [if_neg hlong, number, hds']
      simp only [if_neg hshort, Except.ok_bind, hvalue]
      split_ifs <;> rfl

/-- An integer within the bound is put whole. -/
lemma uint_eq {width n : Nat} (hn : n ≤ Nat.pow 2 (8 * width) - 1) :
    written (Codec.Buffer.uint width n) = .ok (Bytes.littleEndian width n) := by
  have hpos : 0 < Nat.pow 2 (8 * width) := Nat.pow_pos (by decide)
  have hlt : ¬ ((n : Int) < 0 ∨ ((Nat.pow 2 (8 * width) : ℕ) : Int) ≤ n) := by omega
  have hpart : Written.uint width n = ⟨Bytes.littleEndian width n, none⟩ := by
    rw [Written.uint, if_neg hlt, Int.toNat_natCast]
  rw [written_eq (.uint width n) (hpart ▸ .complete _), hpart]
  rfl

/-! ## Values -/

/-- The largest integer of a type has few enough digits to be shown, and what is read within it fits
into the bytes of the type. -/
lemma integer_eq {type : ArgType} (hwidth : widthOf type = .ok type.width)
    (hle : type.width ≤ 32) (t : Text) :
    (do let width ← widthOf type
        let n ← unsigned (Nat.pow 2 (8 * width) - 1) type.name t
        written (Codec.Buffer.uint width n)) =
      (type.integerBytes t).mapError Stop.ofFault := by
  have hpos : 0 < Nat.pow 2 (8 * type.width) := Nat.pow_pos (by decide)
  have hdigits : Nat.pow 2 (8 * type.width) ≤ 10 ^ Json.maxDigits := by
    calc Nat.pow 2 (8 * type.width) ≤ 2 ^ 256 := Nat.pow_le_pow_right (by decide) (by omega)
      _ ≤ 10 ^ 256 := Nat.pow_le_pow_left (by decide) 256
      _ ≤ 10 ^ Json.maxDigits := Nat.pow_le_pow_right (by decide) (by decide)
  have hbound : Nat.pow 2 (8 * type.width) - 1 < Nat.pow 2 (8 * type.width) :=
    Nat.sub_lt hpos (by decide)
  rw [hwidth, Except.ok_bind]
  simp only [unsigned_eq (hbound.trans_le hdigits)]
  rw [ArgType.integerBytes]
  cases hread : Literal.unsigned (Nat.pow 2 (8 * type.width) - 1) type.name t with
  | error fault => rfl
  | ok n => exact uint_eq (Literal.unsigned_eq_ok_iff.mp hread).2

lemma text_eq (type : ArgType) (t : Text) :
    text type t = (type.encodeText t).mapError Stop.ofFault := by
  cases type with
  | signer => exact text_of_address t
  | address => exact text_of_address t
  | bool =>
    rw [text, bool_eq, ArgType.encodeText]
    cases Literal.bool t with
    | error fault => rfl
    | ok b => exact written_eq (.bool b) (by rintro _ ⟨⟩)
  | hex =>
    rw [text, hexBytes_eq, ArgType.encodeText, Except.mapError_bind]
    exact bind_congr counted_eq
  | string => exact textBytes_eq t
  | raw => exact hexBytes_eq t
  | u8 | u16 | u32 | u64 | u128 | u256 => exact integer_eq rfl (by decide) t

lemma scalar_eq (type : ArgType) {v : Json} (h : v.IsShort) :
    scalar type v = (type.encodeScalar v).mapError Stop.ofFault := by
  cases h with
  | int h =>
    rw [scalar, shown_of_lt h]
    exact text_eq type _
  | bool b => exact text_eq type _
  | float x => exact text_eq type _
  | str t => exact text_eq type t
  | null | arr | obj => rfl

/-! ## Arrays -/

/-- The frame with the elements that are still to be encoded. -/
def Frame.rest (frame : Frame) : ArgType.Frame :=
  ⟨frame.elements.drop frame.place, frame.depth?, frame.bytes⟩

/-- No element of an array in a stack has long integers. -/
def IsShort (stack : List Frame) : Prop := ∀ frame ∈ stack, ∀ v ∈ frame.elements, v.IsShort

lemma isShort_cons {frame : Frame} {below : List Frame} :
    IsShort (frame :: below) ↔ (∀ v ∈ frame.elements, v.IsShort) ∧ IsShort below :=
  List.forall_mem_cons

/-- A step after the opening of an array is a step of the library if it is one after any frame that
has none of the elements behind it. -/
lemma start_bind {β : Type} {elements : List Json} {next : Frame → Except Stop β}
    {next' : ArgType.Frame → Except ArgFault β}
    (h : ∀ frame : Frame, frame.elements = elements →
      frame.rest = ⟨elements, none, frame.bytes⟩ →
      next frame = (next' frame.rest).mapError Stop.ofFault) :
    start elements >>= next = (ArgType.Frame.start elements >>= next').mapError Stop.ofFault := by
  have hcount : written (Codec.Buffer.count elements.length) =
      (ArgType.countBytes elements).mapError Stop.ofFault :=
    count_eq elements.length
  rw [start, ArgType.Frame.start, hcount]
  cases ArgType.countBytes elements with
  | error fault => rfl
  | ok bytes => exact h ⟨elements, 0, none, bytes⟩ rfl rfl

/-- A step after the adding of an element is a step of the library if it is one after any frame with
the same elements before and behind it. -/
lemma add_bind {β : Type} {element : Argument} {frame : Frame} {below : List Frame}
    {next : List Frame → Except Stop β} {next' : ArgType.Frame → Except ArgFault β}
    (h : ∀ frame' : Frame, frame'.elements = frame.elements →
      frame'.rest.pending = frame.rest.pending →
      next (frame' :: below) = (next' frame'.rest).mapError Stop.ofFault) :
    add element (frame :: below) >>= next =
      (frame.rest.add element >>= next').mapError Stop.ofFault := by
  have hdepth? : frame.rest.depth? = frame.depth? := rfl
  rw [add, ArgType.Frame.add, itemAt_zero, Except.ok_bind, hdepth?]
  split_ifs
  · exact h _ rfl rfl
  · rfl

lemma turn_close {type : ArgType} {frame : Frame} (below : List Frame)
    (h : frame.rest.pending = []) :
    turn type (frame :: below) =
      match below with
      | [] => .ok (.inr frame.rest.argument)
      | below => (add frame.rest.argument below).map .inl := by
  have hplace : ¬ frame.place < frame.elements.length := by
    simpa [Frame.rest, List.drop_eq_nil_iff] using h
  rw [turn, itemAt_zero, Except.ok_bind, if_neg hplace]
  cases below <;> rfl

lemma next_of_pending {frame : Frame} {v : Json} {rest : List Json}
    (h : frame.rest.pending = v :: rest) :
    frame.next.rest = ({ frame.rest with pending := rest } : ArgType.Frame) ∧
      v ∈ frame.elements ∧ frame.place < frame.elements.length ∧
      itemAt frame.elements frame.place = .ok v := by
  have hdrop : frame.elements.drop frame.place = v :: rest := h
  have hitem : frame.elements[frame.place]? = some v := by
    rw [← List.head?_drop, hdrop, List.head?_cons]
  have hrest : frame.elements.drop (frame.place + 1) = rest := by
    rw [← List.tail_drop, hdrop, List.tail_cons]
  refine ⟨?_, List.mem_of_getElem? hitem, (List.getElem?_eq_some_iff.mp hitem).1, ?_⟩
  · rw [Frame.rest, Frame.next]
    exact congrArg (ArgType.Frame.mk · _ _) hrest
  · rw [itemAt, hitem]

lemma turn_open {type : ArgType} {frame : Frame} {elements rest : List Json}
    (h : frame.rest.pending = .arr elements :: rest) (below : List Frame) :
    turn type (frame :: below) =
      (start elements >>= fun inner => .ok (inner :: frame.next :: below)).map .inl := by
  obtain ⟨-, -, hplace, hitem⟩ := next_of_pending h
  rw [turn, itemAt_zero, Except.ok_bind, if_pos hplace, hitem, Except.map_bind]
  rfl

lemma turn_single {type : ArgType} {frame : Frame} {v : Json} {rest : List Json}
    (h : frame.rest.pending = v :: rest) (hv : ∀ elements, v ≠ .arr elements)
    (below : List Frame) :
    turn type (frame :: below) =
      (scalar type v >>= fun bytes => add ⟨bytes, 0⟩ (frame.next :: below)).map .inl := by
  obtain ⟨-, -, hplace, hitem⟩ := next_of_pending h
  rw [turn, itemAt_zero, Except.ok_bind, if_pos hplace, hitem, Except.ok_bind, Except.map_bind]
  cases v with
  | arr elements => exact absurd rfl (hv elements)
  | _ => rfl

lemma loop_succ (type : ArgType) (turns : Nat) (stack : List Frame) :
    loop type (turns + 1) stack = turn type stack >>= fun
      | .inl stack => loop type turns stack
      | .inr argument => .ok argument := rfl

lemma loop_succ_of_turn {type : ArgType} {stack : List Frame} {x : Except Stop (List Frame)}
    (h : turn type stack = x.map .inl) (turns : Nat) :
    loop type (turns + 1) stack = x >>= loop type turns := by
  rw [loop_succ, h]
  cases x <;> rfl

/-- What the loop completes is what becomes of the arrays of its stack.  Each turn leaves less to be
done. -/
lemma loop_eq (type : ArgType) {turns : Nat} {frame : Frame} {below : List Frame}
    (hturns : ArgType.stackWeight ((frame :: below).map Frame.rest) ≤ turns)
    (hshort : IsShort (frame :: below)) :
    loop type turns (frame :: below) =
      (type.finish frame.rest >>= ArgType.resume type (below.map Frame.rest)).mapError
        Stop.ofFault := by
  induction turns generalizing frame below with
  | zero => simp [ArgType.stackWeight] at hturns
  | succ turns ih =>
    rw [List.map_cons, ArgType.stackWeight] at hturns
    obtain ⟨helements, hbelow⟩ := isShort_cons.mp hshort
    cases hpending : frame.rest.pending with
    | nil =>
      rw [ArgType.finish_of_pending_nil hpending, Except.ok_bind]
      cases below with
      | nil =>
        rw [loop_succ, turn_close [] hpending]
        rfl
      | cons outer below =>
        -- the array is closed and added to the one around it
        obtain ⟨houter, hbelow⟩ := isShort_cons.mp hbelow
        rw [loop_succ_of_turn (turn_close (outer :: below) hpending), List.map_cons,
          ArgType.resume_cons]
        refine add_bind fun outer' helements' hpending' => ?_
        rw [List.map_cons, ArgType.stackWeight, ← hpending'] at hturns
        refine ih ?_ (isShort_cons.mpr ⟨helements' ▸ houter, hbelow⟩)
        rw [List.map_cons, ArgType.stackWeight]
        omega
    | cons v rest =>
      obtain ⟨hnext, hv, -⟩ := next_of_pending hpending
      have hrest : frame.next.rest.pending = rest := congrArg ArgType.Frame.pending hnext
      rw [hpending, ArgType.weights] at hturns
      rw [ArgType.finish_of_pending_cons hpending, ← hnext]
      by_cases hsingle : ∀ elements, v ≠ .arr elements
      · -- a single value is encoded and added
        have hpos := ArgType.weight_pos v
        rw [loop_succ_of_turn (turn_single hpending hsingle below),
          ArgType.encodeNested_of_ne_arr hsingle, scalar_eq type (helements v hv)]
        simp only [bind_assoc, Except.ok_bind, Except.mapError_bind _ (type.encodeScalar v)]
        refine bind_congr fun bytes => ?_
        refine add_bind fun frame' helements' hpending' => ?_
        refine ih ?_ (isShort_cons.mpr ⟨helements' ▸ helements, hbelow⟩)
        rw [List.map_cons, ArgType.stackWeight, hpending', hrest]
        omega
      · -- an array is opened
        obtain ⟨elements, rfl⟩ : ∃ elements, v = .arr elements := by simpa using hsingle
        have hinner := (Json.isShort_arr_iff.mp (helements _ hv))
        rw [ArgType.weight] at hturns
        rw [loop_succ_of_turn (turn_open hpending below), ArgType.encodeNested_arr]
        simp only [bind_assoc, Except.ok_bind]
        refine start_bind fun inner helements' hinner' => ?_
        refine ih ?_ (isShort_cons.mpr
          ⟨helements' ▸ hinner, isShort_cons.mpr ⟨helements, hbelow⟩⟩)
        rw [List.map_cons, ArgType.stackWeight, hinner', List.map_cons, ArgType.stackWeight, hrest]
        simp only
        omega

lemma value_eq (type : ArgType) {v : Json} (h : v.IsShort) :
    value type v = (type.encodeJson v).mapError Stop.ofFault := by
  by_cases hsingle : ∀ elements, v ≠ .arr elements
  · have hvalue : value type v = scalar type v >>= fun bytes => .ok ⟨bytes, 0⟩ := by
      rw [value]
      · rfl
      · exact hsingle
    rw [hvalue, scalar_eq type h, ArgType.encodeJson_of_ne_arr hsingle]
    cases type.encodeScalar v <;> rfl
  · obtain ⟨elements, rfl⟩ : ∃ elements, v = .arr elements := by simpa using hsingle
    have hbottom : ArgType.resume type [] = pure := rfl
    rw [ArgType.encodeJson_eq_encodeNested, ArgType.encodeNested_arr, value]
    refine start_bind fun frame helements hrest => ?_
    have hturns : ArgType.stackWeight ([frame].map Frame.rest) ≤ ArgType.weights elements + 1 := by
      rw [List.map_singleton, hrest]
      exact le_rfl
    have hshort : IsShort [frame] :=
      isShort_cons.mpr ⟨helements ▸ Json.isShort_arr_iff.mp h, nofun⟩
    rw [loop_eq type hturns hshort, List.map_nil, hbottom, bind_pure]

/-! ## Arguments -/

lemma argType_eq (name : Text) : argType name = (ArgType.ofText name).mapError Stop.ofFault := by
  rw [argType, typeNamed, ArgType.ofText]
  cases ArgType.all.find? fun type => Text.ofString type.name = name.toLower <;> rfl

end Stepwise

/-- The argument that is read step by step is the argument of the text. -/
lemma stepwise_eq (t : Text) : stepwise t = (ofText t).mapError Stop.ofFault := by
  rw [stepwise, ofText]
  cases t.splitFirst? ':' with
  | none => rfl
  | some parts =>
    obtain ⟨name, given⟩ := parts
    change (Stepwise.argType name >>= _) = _
    rw [Stepwise.argType_eq, Except.mapError_bind]
    refine bind_congr fun type => ?_
    change (catching _ _ (catching _ _ (Stepwise.literal (jsonText type given))) >>= _) = _
    rw [Stepwise.literal]
    cases hread : Json.ofText (jsonText type given) with
    | error fault => cases fault <;> rfl
    | ok literal =>
      -- what has been read has no integer that cannot be shown
      exact Stepwise.value_eq type (Json.isShort_of_ofText hread)

/-- **Whatever could stop the reading of an argument, it ends in an argument or in a refusal.**  The
refusal is of one of five kinds, and every text is read to the argument of the library or refused
with its message.  A list of arguments is read when each of them is, and otherwise is refused as the
first one that is refused. -/
theorem encoded_or_refused :
    (∀ t, (∃ argument, ofText t = .ok argument ∧ stepwise t = .ok argument) ∨
      ∃ fault, ofText t = .error fault ∧
        stepwise t = .error ⟨.refusal fault.kind, fault.message⟩) ∧
    (∀ types args, (∃ arguments, ScriptArguments.ofTexts types args = .ok arguments) ↔
      ∀ arg ∈ args, ∃ argument, ofText arg = .ok argument) ∧
    ∀ types args fault, ScriptArguments.ofTexts types args = .error fault ↔
      ∃ before arg after, args = before ++ arg :: after ∧
        (∀ b ∈ before, ∃ argument, ofText b = .ok argument) ∧ ofText arg = .error fault := by
  refine ⟨fun t => ?_, fun types args => ?_, fun types args fault => ?_⟩
  · rw [stepwise_eq]
    cases ofText t with
    | ok argument => exact .inl ⟨argument, rfl, rfl⟩
    | error fault => exact .inr ⟨fault, rfl, rfl⟩
  · simp only [ScriptArguments.ofTexts, Except.bind_eq_ok_iff]
    constructor
    · rintro ⟨arguments, read, hread, -⟩ arg harg
      obtain ⟨argument, -, h⟩ := Except.exists_of_mapM_eq_ok hread harg
      exact ⟨argument, h⟩
    · intro h
      obtain ⟨read, hread⟩ := Except.exists_mapM_eq_ok h
      exact ⟨_, read, hread, rfl⟩
  · rw [ScriptArguments.ofTexts, ← Except.mapM_eq_error_iff]
    cases args.mapM ofText <;> simp [bind, Except.bind, pure, Except.pure]

/-- A step can stop for another cause than a refusal. -/
example : Stepwise.number "" = .error ⟨.value, "invalid literal for int() with base 10: ''"⟩ := by
  decide +kernel

end MovePack.Argument
