/-
# Reading an argument step by step

Much could stop the reading of an argument: a value that an operation does not take, a text that an
encoding lacks characters for, brackets that are too deep, a place or a key without anything, a
number that is too long to be shown or read or does not fit into its bytes.  Here the reading is
laid out with everything that could stop it, each cause where it arises, and each handler that turns
a cause into a refusal where it stands.
-/
import MovePack.Account.Stepwise
import MovePack.Codec.Buffer
import MovePack.Script.Argument

namespace MovePack

/-- The kind of a refusal. -/
def ArgFault.kind : ArgFault → Refusal
  | .unknownType _ | .notAPair | .invalidJson _ _ | .notABool _ | .invalidDigit _ _ | .tooLarge _ _
  | .unwritable _ => .parse
  | .invalidHex _ => .decode
  | .invalidAddress _ => .addressFormat
  | .depthMismatch => .depthMismatch
  | .null | .object => .unsupportedLiteral

/-- The stop that a refusal of an argument is. -/
def Stop.ofFault (fault : ArgFault) : Stop := ⟨.refusal fault.kind, fault.message⟩

namespace Argument

namespace Stepwise

open Stop (catching itemAt refuse)

/-! ### Bytes -/

/-- The cause for which a writer stops. -/
def causeOf : Codec.WriteFault → Cause
  | .outOfRange _ _ | .notUnicode _ => .refusal .parse
  | .foreign (.unshown _) => .value
  | .foreign (.unencodable _) => .encoding
  | .foreign (.overflow _ _) => .overflow

/-- The bytes that a writer puts into a new buffer. -/
def written (w : Codec.Buffer.Writer Unit) : Except Stop Bytes :=
  match Codec.Buffer.run w [] with
  | (.ok (), bytes) => .ok bytes
  | (.error fault, _) => .error ⟨causeOf fault, fault.message⟩

/-- The bytes of pairs of hexadecimal digits. -/
def unhexed (t : Text) : Except Stop Bytes :=
  (Hex.decode t).mapError fun fault => ⟨.value, fault.message⟩

/-- The bytes in hexadecimal notation. -/
def hexBytes (t : Text) : Except Stop Bytes :=
  catching Cause.isValue
    (fun message => refuse .decode
      ("decode hex-encoded string(" ++ t.quoted ++ ") failed, caused by error: " ++ message))
    (unhexed ((t.dropPrefix? "0x").getD t))

/-! ### Numbers and truth values -/

/-- Reads a truth value. -/
def bool (t : Text) : Except Stop Bool :=
  if t = Text.ofString "true" then .ok true
  else if t = Text.ofString "false" then .ok false
  else refuse .parse ("provided string was not `true` or `false`: " ++ t.quoted)

/-- The text of an integer, which cannot have too many digits. -/
def shown (i : Int) : Except Stop Text :=
  (Text.shown? i).elim (.error ⟨.value, Text.digitLimit⟩) .ok

/-- The integer of digits, of which there cannot be too many. -/
def number (t : Text) : Except Stop Nat :=
  match Literal.digits? t with
  | none => .error ⟨.value, "invalid literal for int() with base 10: " ++ t.quoted⟩
  | some digits =>
    if Json.maxDigits < digits.length then
      .error ⟨.value, (Json.Fault.tooManyDigits digits.length).message⟩
    else .ok (Radix.value 10 digits)

/-- Reads an unsigned integer, which a plus sign may precede, up to a bound.  It is only turned into
a number when it has no more digits than the bound. -/
def unsigned (bound : Nat) (type t : Text) : Except Stop Nat :=
  if (Literal.digits? ((t.dropPrefix? "+").getD t)).isNone then
    refuse .parse ("invalid digit found in " ++ type ++ " literal " ++ t.quoted)
  else do
    let digits := Address.significantDigits (t.dropWhile (· = .scalar '+'))
    let largest ← shown bound
    if largest.length < digits.length then
      refuse .parse ("number too large to fit in target type " ++ type ++ ": " ++ t)
    else do
      let n ← number digits
      if bound < n then
        refuse .parse ("number too large to fit in target type " ++ type ++ ": " ++ t)
      else return n

/-- The numbers of bytes of the integer types. -/
def widths : List (ArgType × Nat) :=
  [(.u8, 1), (.u16, 2), (.u32, 4), (.u64, 8), (.u128, 16), (.u256, 32)]

/-- The number of bytes of an integer type. -/
def widthOf (type : ArgType) : Except Stop Nat :=
  match widths.lookup type with
  | some width => .ok width
  | none => .error ⟨.key, type.name⟩

/-! ### Values -/

/-- The bytes in which the value that a text denotes is passed. -/
def text (type : ArgType) (t : Text) : Except Stop Bytes :=
  match type with
  | .signer | .address => (Address.Stepwise.parse t).map Address.bytes
  | .bool => do written (Codec.Buffer.int (if ← bool t then 1 else 0) 1)
  | .hex => do written (Codec.Buffer.countedBytes (← hexBytes t))
  | .string => written (Codec.Buffer.text t)
  | .raw => hexBytes t
  | type => do
    let width ← widthOf type
    let n ← unsigned (Nat.pow 2 (8 * width) - 1) type.name t
    written (Codec.Buffer.uint width n)

/-- The bytes of a single value. -/
def scalar (type : ArgType) : Json → Except Stop Bytes
  | .bool b => text type (Text.ofString (if b then "true" else "false"))
  | .int i => do text type (← shown i)
  | .float x => text type x.toText
  | .str t => text type t
  | .null => refuse .unsupportedLiteral "Null argument"
  | _ => refuse .unsupportedLiteral "JSON object argument"

/-! ### Arrays -/

/-- An array that is being encoded. -/
structure Frame where
  /-- All elements. -/
  elements : List Json
  /-- The place of the next element. -/
  place : Nat
  /-- The depth of the elements encoded so far, if there is any. -/
  depth? : Option Nat
  /-- The number of elements and the elements encoded so far. -/
  bytes : Bytes

/-- The frame behind its next element. -/
def Frame.next (frame : Frame) : Frame := { frame with place := frame.place + 1 }

/-- The frame of an array before its first element. -/
def start (elements : List Json) : Except Stop Frame := do
  return ⟨elements, 0, none, ← written (Codec.Buffer.count elements.length)⟩

/-- Adds an element to the array at the top of the stack. -/
def add (element : Argument) (stack : List Frame) : Except Stop (List Frame) := do
  let frame ← itemAt stack 0
  if frame.depth?.all (· = element.depth) then
    return { frame with
      depth? := some element.depth, bytes := frame.bytes ++ element.bytes } :: stack.tail
  else refuse .depthMismatch "Variable vector depth"

/-- One turn of the loop: an element is encoded or an array is opened or closed, which leaves a
stack or completes the argument. -/
def turn (type : ArgType) (stack : List Frame) : Except Stop (List Frame ⊕ Argument) := do
  let frame ← itemAt stack 0
  if frame.place < frame.elements.length then do
    let v ← itemAt frame.elements frame.place
    let stack := frame.next :: stack.tail
    match v with
    | .arr elements => return .inl ((← start elements) :: stack)
    | v => return .inl (← add ⟨← scalar type v, 0⟩ stack)
  else
    let argument := ⟨frame.bytes, frame.depth?.getD 0 + 1⟩
    match stack.tail with
    | [] => return .inr argument
    | below => return .inl (← add argument below)

/-- The argument that the loop completes within the given number of turns. -/
def loop (type : ArgType) : Nat → List Frame → Except Stop Argument
  | 0, _ => .error ⟨.endless, []⟩
  | turns + 1, stack => do
    match ← turn type stack with
    | .inl stack => loop type turns stack
    | .inr argument => return argument

/-- The argument of a value. -/
def value (type : ArgType) : Json → Except Stop Argument
  | .arr elements => do loop type (ArgType.weights elements + 1) [← start elements]
  | v => do return ⟨← scalar type v, 0⟩

/-! ### Arguments -/

/-- The type of a name. -/
def typeNamed (name : Text) : Except Stop ArgType :=
  match ArgType.all.find? fun type => Text.ofString type.name = name with
  | some type => .ok type
  | none => .error ⟨.value, name.quoted ++ " is not a valid FunctionArgType"⟩

/-- The type of a name, which may be in any case. -/
def argType (name : Text) : Except Stop ArgType :=
  catching Cause.isValue
    (fun _ => refuse .parse ("Invalid arg type '" ++ name.toLower ++ "'.  Must be one of: ["
      ++ ArgFault.typeNames ++ "]"))
    (typeNamed name.toLower)

/-- The value of a JSON text, in which brackets can be too deep. -/
def literal (t : Text) : Except Stop Json :=
  (Json.ofText t).mapError fun fault =>
    match fault with
    | .tooDeep _ => ⟨.recursion, fault.message⟩
    | _ => ⟨.value, fault.message⟩

end Stepwise

open Stop (catching itemAt refuse)

/-- Reads an argument step by step. -/
def stepwise (t : Text) : Except Stop Argument := do
  let parts :=
    match t.splitFirst? ':' with
    | some (name, value) => [name, value]
    | none => [t]
  if parts.length ≠ 2 then
    refuse .parse "Arguments must be pairs of <type>:<arg> e.g. bool:true"
  else do
    let type ← Stepwise.argType (← itemAt parts 0)
    let value ← itemAt parts 1
    let literal ← catching Cause.isValue
      (fun message => refuse .parse
        ("Invalid JSON argument " ++ value.quoted ++ ": " ++ message))
      (catching (· = .recursion)
        (fun _ => refuse .parse "Invalid JSON argument: arrays are nested too deeply")
        (Stepwise.literal (jsonText type value)))
    Stepwise.value type literal

end Argument

end MovePack
