/-
# What a node finds out

The result of a request is a JSON value.  Depending on the request it stands for an estimation of
gas, a weight, or the interface of a module as an array of bytes; a result of another shape is
refused.
-/
import MovePack.Bytes
import MovePack.Json.Display
import MovePack.Node.Status

namespace MovePack

/-- Why a result is refused. -/
inductive FindingFault where
  /-- No code has this name. -/
  | unknownStatus (name : Text)
  /-- This is neither the name nor the number of a code. -/
  | invalidStatus (found : Json)
  /-- This is not a natural number. -/
  | notUnsigned (found : Json)
  /-- This is no object with the members of an estimation. -/
  | notAnEstimation (found : Json)
  /-- This is no object with the members of a weight. -/
  | notAWeight (found : Json)
  /-- This is no array. -/
  | notAByteArray (found : Json)
  /-- An element of the array is no byte. -/
  | byteOutOfRange
  /-- An element of the array is no integer, but of the named kind. -/
  | notAnInteger (kind : String)
deriving Repr

/-- The message of a refused result. -/
def FindingFault.message : FindingFault → Text
  | .unknownStatus name => "Unknown VM status code " ++ name.quoted
  | .invalidStatus found => "Invalid VM status code " ++ found.display
  | .notUnsigned found => "Expected an unsigned integer, got " ++ found.display
  | .notAnEstimation found => "Invalid estimation in response: " ++ found.display
  | .notAWeight found => "Invalid weight in response: " ++ found.display
  | .notAByteArray found => "Expected a byte array, got " ++ found.display
  | .byteOutOfRange => "Invalid byte array in response: bytes must be in range(0, 256)"
  | .notAnInteger kind =>
    "Invalid byte array in response: '" ++ Text.ofString kind
      ++ "' object cannot be interpreted as an integer"

/-- The member of an object; other values have no members. -/
def Json.memberOf? (name : String) : Json → Option Json
  | .obj members => Json.member? name members
  | _ => none

/-- The natural number that a value is. -/
def Json.unsigned : Json → Except FindingFault Nat
  | .int (.ofNat n) => .ok n
  | found => .error (.notUnsigned found)

/-- The status code that a value names or numbers. -/
def StatusCode.ofJson : Json → Except FindingFault StatusCode
  | .str name =>
    match StatusCode.ofName? name with
    | some code => .ok code
    | none => .error (.unknownStatus name)
  | .int number => .ok ⟨number⟩
  | found => .error (.invalidStatus found)

/-! ## Estimations -/

/-- An estimation of the gas that a call takes. -/
structure Estimation where
  /-- The gas that the node has counted. -/
  gasUsed : Nat
  /-- How the call ended. -/
  status : StatusCode
deriving DecidableEq, Repr

namespace Estimation

/-- The gas figure that is shown: only that of an executed call means anything. -/
def shownGas (e : Estimation) : Nat := if e.status = .executed then e.gasUsed else 0

/-- The text of an estimation. -/
def toText (e : Estimation) : Text :=
  "Estimate (gas_used: " ++ Text.ofNat e.shownGas ++ ", vm_status_code: " ++ e.status.toText ++ ")"

/-- The estimation that a value stands for. -/
def ofJson (found : Json) : Except FindingFault Estimation := do
  match found.memberOf? "gas_used" with
  | none => throw (.notAnEstimation found)
  | some gas =>
    let gasUsed ← gas.unsigned
    match found.memberOf? "vm_status_code" with
    | none => throw (.notAnEstimation found)
    | some code => return ⟨gasUsed, ← StatusCode.ofJson code⟩

end Estimation

/-! ## Weights -/

/-- The weight of an amount of gas on the chain. -/
structure Weight where
  /-- The time on the reference machine. -/
  refTime : Nat
  /-- The size of the proof. -/
  proofSize : Nat
deriving DecidableEq, Repr

namespace Weight

/-- The text of a weight. -/
def toText (w : Weight) : Text :=
  "Weight (ref_time: " ++ Text.ofNat w.refTime ++ ", proof_size: " ++ Text.ofNat w.proofSize ++ ")"

/-- The weight that a value stands for. -/
def ofJson (found : Json) : Except FindingFault Weight := do
  match found.memberOf? "ref_time" with
  | none => throw (.notAWeight found)
  | some time =>
    let refTime ← time.unsigned
    match found.memberOf? "proof_size" with
    | none => throw (.notAWeight found)
    | some size => return ⟨refTime, ← size.unsigned⟩

end Weight

/-! ## Interfaces -/

namespace ModuleInterface

/-- The byte that an element of an array stands for; truth values count as 0 and 1. -/
def byteOf : Json → Except FindingFault UInt8
  | .int i => if 0 ≤ i ∧ i < 256 then .ok (UInt8.ofNat i.toNat) else .error .byteOutOfRange
  | .bool b => .ok (if b then 1 else 0)
  | .null => .error (.notAnInteger "NoneType")
  | .float _ => .error (.notAnInteger "float")
  | .str _ => .error (.notAnInteger "str")
  | .arr _ => .error (.notAnInteger "list")
  | .obj _ => .error (.notAnInteger "dict")

/-- The bytes of an interface, or none if there is no such module. -/
def ofJson : Json → Except FindingFault (Option Bytes)
  | .null => .ok none
  | .arr elements => (elements.mapM byteOf).map some
  | found => .error (.notAByteArray found)

end ModuleInterface

/-- What a request has found out. -/
inductive Finding where
  /-- The gas of a call. -/
  | estimation (e : Estimation)
  /-- The weight of an amount of gas. -/
  | weight (w : Weight)
  /-- The interface of a module, if there is such a module. -/
  | interface (bytes? : Option Bytes)
deriving Repr

end MovePack
