/-
# Script arguments

An argument is the bytes a script receives for one parameter, together with the number of
vectors around the single values in them.  It is given as a type and a JSON value: a single value,
or an array of values that are all nested to the same depth.  An array is encoded as the number of
its elements and the elements.

The encoder keeps its own stack of the arrays that are being encoded.  `ArgType.encodeNested` says
what it computes by recursion on the value.
-/
import MovePack.Json.Display
import MovePack.Script.Literal

namespace MovePack

/-- The bytes of an argument. -/
structure Argument where
  /-- The bytes. -/
  bytes : Bytes
  /-- The number of vectors around the single values. -/
  depth : Nat
deriving DecidableEq, Repr

namespace ArgType

/-- The bytes of a single value, which is read as the text that shows it. -/
def encodeScalar (type : ArgType) : Json → Except ArgFault Bytes
  | .bool b => type.encodeText (Text.ofString (if b then "true" else "false"))
  | .int i => type.encodeText (Text.ofInt i)
  | .float x => type.encodeText x.toText
  | .str t => type.encodeText t
  | .null => .error .null
  | _ => .error .object

/-- The bytes of a vector of so many elements before its first element. -/
def countBytes (elements : List Json) : Except ArgFault Bytes :=
  complete (Codec.Written.count elements.length)

/-! ## Encoding by recursion -/

mutual

/-- The argument of a value. -/
def encodeNested (type : ArgType) : Json → Except ArgFault Argument
  | .arr elements => do
    let count ← countBytes elements
    let (bytes, depth?) ← encodeElements type none elements
    return ⟨count ++ bytes, depth?.getD 0 + 1⟩
  | v => do return ⟨← type.encodeScalar v, 0⟩

/-- The bytes of elements and their common depth, after elements of the given depth. -/
def encodeElements (type : ArgType) (depth? : Option Nat) :
    List Json → Except ArgFault (Bytes × Option Nat)
  | [] => .ok ([], depth?)
  | v :: rest => do
    let element ← encodeNested type v
    if depth?.all (· = element.depth) then
      let (bytes, depth?) ← encodeElements type (some element.depth) rest
      return (element.bytes ++ bytes, depth?)
    else .error .depthMismatch

end

/-! ## Encoding with a stack -/

/-- An array that is being encoded. -/
structure Frame where
  /-- The elements that are still to be encoded. -/
  pending : List Json
  /-- The depth of the elements encoded so far, if there is any. -/
  depth? : Option Nat
  /-- The number of elements and the elements encoded so far. -/
  bytes : Bytes

namespace Frame

/-- The frame of an array before its first element. -/
def start (elements : List Json) : Except ArgFault Frame := do
  return ⟨elements, none, ← countBytes elements⟩

/-- The frame with one more element encoded. -/
def add (frame : Frame) (element : Argument) : Except ArgFault Frame :=
  if frame.depth?.all (· = element.depth) then
    .ok { frame with depth? := some element.depth, bytes := frame.bytes ++ element.bytes }
  else .error .depthMismatch

/-- The argument of an array whose elements are all encoded. -/
def argument (frame : Frame) : Argument := ⟨frame.bytes, frame.depth?.getD 0 + 1⟩

end Frame

mutual

/-- The number of values in a value, arrays counting twice. -/
def weight : Json → Nat
  | .arr elements => weights elements + 2
  | _ => 1

/-- The number of values in elements, arrays counting twice. -/
def weights : List Json → Nat
  | [] => 0
  | v :: rest => weight v + weights rest

end

/-- What is still to be done for the frames of a stack. -/
def stackWeight : List Frame → Nat
  | [] => 0
  | frame :: below => weights frame.pending + 1 + stackWeight below

/-- Nothing is taken from the elements to be done when one is added. -/
theorem Frame.pending_of_add {frame next : Frame} {element : Argument}
    (h : frame.add element = .ok next) : next.pending = frame.pending := by
  unfold Frame.add at h
  split at h
  · cases h; rfl
  · cases h

/-- The elements to be done of an array before its first element are all of them. -/
theorem Frame.pending_of_start {elements : List Json} {frame : Frame}
    (h : Frame.start elements = .ok frame) : frame.pending = elements := by
  unfold Frame.start at h
  cases hcount : countBytes elements <;> rw [hcount] at h <;> cases h
  rfl

/-- A value that is no array weighs one. -/
theorem weight_pos (v : Json) : 0 < weight v := by
  cases v <;> simp [weight]

/-- The argument of the array at the bottom of a stack, which consists of the frame at its top
and those below.  In each step an element is encoded or an array is opened or closed. -/
def run (type : ArgType) (frame : Frame) (below : List Frame) : Except ArgFault Argument :=
  match _pending : frame.pending with
  | .arr elements :: rest =>
    match _started : Frame.start elements with
    | .error fault => .error fault
    | .ok inner => run type inner ({ frame with pending := rest } :: below)
  | v :: rest =>
    match type.encodeScalar v with
    | .error fault => .error fault
    | .ok bytes =>
      match _added : ({ frame with pending := rest } : Frame).add ⟨bytes, 0⟩ with
      | .error fault => .error fault
      | .ok next => run type next below
  | [] =>
    match below with
    | [] => .ok frame.argument
    | outer :: below =>
      match _added : outer.add frame.argument with
      | .error fault => .error fault
      | .ok next => run type next below
termination_by stackWeight (frame :: below)
decreasing_by
  · simp only [stackWeight, _pending, weights, weight, Frame.pending_of_start _started]; omega
  · have := weight_pos v
    simp only [stackWeight, _pending, weights, Frame.pending_of_add _added]; omega
  · simp only [stackWeight, _pending, weights, Frame.pending_of_add _added]; omega

/-- The argument of a value. -/
def encodeJson (type : ArgType) : Json → Except ArgFault Argument
  | .arr elements => do run type (← Frame.start elements) []
  | v => do return ⟨← type.encodeScalar v, 0⟩

end ArgType

namespace Argument

/-- The JSON text of a value as it is given: a value of a textual type that does not begin like an
array is put between quotes. -/
def jsonText (type : ArgType) (value : Text) : Text :=
  if !value.startsWith "[" && type.isTextual then Text.between '\x22' value else value

/-- Reads an argument: its type, a colon and its value. -/
def ofText (t : Text) : Except ArgFault Argument :=
  match t.splitFirst? ':' with
  | none => .error .notAPair
  | some (name, value) => do
    let type ← ArgType.ofText name
    match Json.ofText (jsonText type value) with
    | .error fault => .error (.invalidJson value fault)
    | .ok literal => type.encodeJson literal

/-- The text of an argument in comparisons. -/
def display (a : Argument) : Text :=
  "EncodedArg(arg=" ++ a.bytes.quoted ++ ", vector_depth=" ++ Text.ofNat a.depth ++ ")"

end Argument

end MovePack
