/-
# What can stop a step

A step stops because it refuses what it is given, or for a cause that one of its operations has: a
value that is not taken, a text that an encoding lacks characters for, a recursion that is too deep,
a place or a key without anything, an integer that does not fit into its bytes.  A handler catches
some causes and goes on with the message.
-/
import MovePack.Text.CodePoint

namespace MovePack

/-- The kinds of refusals. -/
inductive Refusal where
  /-- A text or a number is malformed, or a value has no serialized form. -/
  | parse
  /-- The text does not denote bytes. -/
  | decode
  /-- The text is not an account address. -/
  | addressFormat
  /-- The elements of an array are nested to different depths. -/
  | depthMismatch
  /-- The value is null or an object. -/
  | unsupportedLiteral
deriving DecidableEq, Repr

/-- What can stop a step. -/
inductive Cause where
  /-- What is given is refused. -/
  | refusal (kind : Refusal)
  /-- An operation is given a value that it does not take. -/
  | value
  /-- An encoding cannot carry a text, which is a value that it does not take. -/
  | encoding
  /-- A recursion is too deep. -/
  | recursion
  /-- A table has nothing under a key. -/
  | key
  /-- A list has nothing at a place. -/
  | index
  /-- An integer does not fit into its bytes. -/
  | overflow
  /-- A loop does not come to an end. -/
  | endless
deriving DecidableEq, Repr

/-- The cause is a value that is not taken. -/
def Cause.isValue : Cause → Bool
  | .value | .encoding => true
  | _ => false

/-- A cause that stops a step, with its message. -/
structure Stop where
  /-- The cause. -/
  cause : Cause
  /-- The message. -/
  message : Text
deriving DecidableEq, Repr

namespace Stop

variable {α : Type}

/-- Refuses what is given. -/
def refuse (kind : Refusal) (message : Text) : Except Stop α := .error ⟨.refusal kind, message⟩

/-- Goes on with a handler, which is given the message, when the cause of a stop is one that it
catches. -/
def catching (catches : Cause → Bool) (handler : Text → Except Stop α) :
    Except Stop α → Except Stop α
  | .ok a => .ok a
  | .error stop => if catches stop.cause then handler stop.message else .error stop

/-- The value at a place of a list. -/
def itemAt (l : List α) (place : Nat) : Except Stop α :=
  match l[place]? with
  | some a => .ok a
  | none => .error ⟨.index, "list index out of range"⟩

end Stop

end MovePack
