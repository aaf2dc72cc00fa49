/-
# Queries to a node

A query is sent to a node as a JSON-RPC request in its most compact form.  Binary content is an
array of the values of its bytes.  What is missing in a query is sent as an empty array.
-/
import MovePack.Json.Printer
import MovePack.Node.Finding

namespace MovePack

/-- What a node is asked. -/
inductive Query where
  /-- The gas for publishing a module. -/
  | publishModule (account? : Option Text) (module : Bytes)
  /-- The gas for publishing a bundle. -/
  | publishBundle (account? : Option Text) (bundle : Bytes)
  /-- The gas for executing a script transaction, on behalf of an account that is willing to spend
  the given amount, or of nobody. -/
  | executeScript (transaction : Bytes) (payer? : Option (Option Text × Option Int))
  /-- The weight of an amount of gas. -/
  | gasToWeight (gas? : Option Int)
  /-- The interface of a module. -/
  | moduleInterface (address? name? : Option Text)
deriving Repr

/-- An account is given without the amount it is willing to spend, or an amount without account. -/
inductive PayerFault where
  /-- One of the two is missing. -/
  | incomplete
deriving DecidableEq, Repr

/-- The message of an incomplete payer. -/
def PayerFault.message : PayerFault → Text
  | .incomplete => "account_id and cheque_limit must be given together"

namespace Query

/-- The query for the gas of a script transaction, with an account and an amount or with neither. -/
def execution (transaction : Bytes) : Option Text → Option Int → Except PayerFault Query
  | none, none => .ok (.executeScript transaction none)
  | some account, some limit => .ok (.executeScript transaction (some (some account, some limit)))
  | _, _ => .error .incomplete

/-- The name of the method that answers a query. -/
def method : Query → String
  | .publishModule .. => "mvm_estimateGasPublishModule"
  | .publishBundle .. => "mvm_estimateGasPublishBundle"
  | .executeScript .. => "mvm_estimateGasExecuteScript"
  | .gasToWeight _ => "mvm_gasToWeight"
  | .moduleInterface .. => "mvm_getModuleABI"

/-- The array of the values of bytes. -/
def byteArray (bytes : Bytes) : Json := .arr (bytes.map fun b => .int b.toNat)

/-- A text as a parameter. -/
def textParameter (t? : Option Text) : Json := (t?.map .str).getD (.arr [])

/-- A number as a parameter. -/
def numberParameter (i? : Option Int) : Json := (i?.map .int).getD (.arr [])

/-- The parameters of a query. -/
def parameters : Query → List Json
  | .publishModule account? module => [textParameter account?, byteArray module]
  | .publishBundle account? bundle => [textParameter account?, byteArray bundle]
  | .executeScript transaction none => [byteArray transaction]
  | .executeScript transaction (some (account?, limit?)) =>
    [textParameter account?, byteArray transaction, numberParameter limit?]
  | .gasToWeight gas? => [numberParameter gas?]
  | .moduleInterface address? name? => [textParameter address?, textParameter name?]

/-- The body of the request with the given number. -/
def body (q : Query) (number : Nat) : Text :=
  Json.compact (.obj
    [("jsonrpc", .str "2.0"), ("id", .int number), ("method", .str q.method),
     ("params", .arr q.parameters)])

/-- What a result says about a query. -/
def interpret (result : Json) : Query → Except FindingFault Finding
  | .publishModule .. => (Estimation.ofJson result).map .estimation
  | .publishBundle .. => (Estimation.ofJson result).map .estimation
  | .executeScript .. => (Estimation.ofJson result).map .estimation
  | .gasToWeight _ => (Weight.ofJson result).map .weight
  | .moduleInterface .. => (ModuleInterface.ofJson result).map .interface

end Query

end MovePack
