/-
# Encoding arguments by recursion

The stack of arrays that are being encoded is what is left of the recursion on the value: every
array goes on with the elements it has left, and gives what it has become to the array around it.
No step of the encoder changes what comes of it in the end.
-/
import MovePack.Proofs.Except
import MovePack.Script.Argument

namespace MovePack.ArgType

variable {type : ArgType}

/-- What becomes of an array that is being encoded. -/
def finish (type : ArgType) (frame : Frame) : Except ArgFault Argument := do
  let (bytes, depth?) ← type.encodeElements frame.depth? frame.pending
  return ⟨frame.bytes ++ bytes, depth?.getD 0 + 1⟩

/-- What becomes of the arrays around a value that has been encoded, the innermost first. -/
def resume (type : ArgType) : List Frame → Argument → Except ArgFault Argument
  | [], argument => .ok argument
  | outer :: below, argument => do
    let next ← outer.add argument
    resume type below (← type.finish next)

lemma finish_of_pending_nil {frame : Frame} (h : frame.pending = []) :
    type.finish frame = .ok frame.argument := by
  rw [finish, h, encodeElements, Frame.argument]
  change Except.ok (⟨frame.bytes ++ [], _⟩ : Argument) = _
  rw [List.append_nil]

/-- An array goes on by encoding its next element. -/
lemma finish_of_pending_cons {frame : Frame} {v : Json} {rest : List Json}
    (h : frame.pending = v :: rest) :
    type.finish frame = type.encodeNested v >>= fun element =>
      ({ frame with pending := rest } : Frame).add element >>= type.finish := by
  rw [finish, h, encodeElements]
  cases type.encodeNested v with
  | error fault => rfl
  | ok element =>
    change (if _ then _ else _) >>= _ = (if _ then _ else _) >>= _
    split
    next =>
      change _ = type.finish _
      rw [finish]
      cases type.encodeElements (some element.depth) rest with
      | error fault => rfl
      | ok encoded =>
        change Except.ok (⟨frame.bytes ++ (element.bytes ++ encoded.1), _⟩ : Argument) =
          .ok ⟨frame.bytes ++ element.bytes ++ encoded.1, _⟩
        rw [List.append_assoc]
    next => rfl

lemma encodeNested_arr (elements : List Json) :
    type.encodeNested (.arr elements) = Frame.start elements >>= type.finish := by
  rw [encodeNested, Frame.start]
  cases countBytes elements with
  | error fault => rfl
  | ok count => rfl

lemma encodeNested_of_ne_arr {v : Json} (h : ∀ elements, v ≠ .arr elements) :
    type.encodeNested v = type.encodeScalar v >>= fun bytes => .ok ⟨bytes, 0⟩ := by
  rw [encodeNested]
  · rfl
  · exact h

/-- An array goes on by adding a single value. -/
lemma finish_of_pending_scalar {frame : Frame} {v : Json} {rest : List Json} {bytes : Bytes}
    (hpending : frame.pending = v :: rest) (hscalar : ∀ elements, v ≠ .arr elements)
    (hencode : type.encodeScalar v = .ok bytes) :
    type.finish frame = ({ frame with pending := rest } : Frame).add ⟨bytes, 0⟩ >>= type.finish := by
  rw [finish_of_pending_cons hpending, encodeNested_of_ne_arr hscalar, hencode]
  rfl

lemma resume_cons (outer : Frame) (below : List Frame) (argument : Argument) :
    resume type (outer :: below) argument =
      outer.add argument >>= fun next => type.finish next >>= resume type below := rfl

/-- What the encoder gives is what becomes of its frames. -/
theorem run_eq_finish (frame : Frame) (below : List Frame) :
    run type frame below = type.finish frame >>= resume type below := by
  -- an array is opened, a single value is added, an array is closed; each of them may fail
  fun_induction run type frame below with
  | case1 frame below elements rest hpending fault hstart =>
    rw [finish_of_pending_cons hpending, encodeNested_arr, hstart]
    rfl
  | case2 frame below elements rest hpending inner hstart ih =>
    rw [ih, finish_of_pending_cons hpending, encodeNested_arr, hstart]
    simp only [bind_assoc]
    rfl
  | case3 frame below v rest hscalar hpending fault hencode =>
    rw [finish_of_pending_cons hpending, encodeNested_of_ne_arr hscalar, hencode]
    rfl
  | case4 frame below v rest hscalar hpending bytes hencode fault hadd =>
    rw [finish_of_pending_scalar hpending hscalar hencode, hadd]
    rfl
  | case5 frame below v rest hscalar hpending bytes hencode next hadd ih =>
    rw [finish_of_pending_scalar hpending hscalar hencode, hadd, ih]
    rfl
  | case6 frame hpending =>
    rw [finish_of_pending_nil hpending]
    rfl
  | case7 frame hpending outer below fault hadd =>
    rw [finish_of_pending_nil hpending, Except.ok_bind, resume_cons, hadd]
    rfl
  | case8 frame hpending outer below next hadd ih =>
    rw [finish_of_pending_nil hpending, Except.ok_bind, resume_cons, hadd, ih]
    rfl

/-- The encoder with a stack computes what the recursion on the value says. -/
theorem encodeJson_eq_encodeNested (type : ArgType) (v : Json) :
    type.encodeJson v = type.encodeNested v := by
  cases v with
  | arr elements =>
    have hbottom : resume type [] = pure := rfl
    simp only [encodeJson, encodeNested_arr, run_eq_finish, hbottom, bind_pure]
  | _ => rfl

end MovePack.ArgType
