/-
# The command line

The options of every command, and the command that they come to.
-/
import MovePack.Command.Basic
import MovePack.Options.Reader

namespace MovePack.Command

open Options

/-- The largest number of 64 bits. -/
def maxU64 : Nat := Nat.pow 2 64 - 1

/-- The largest number of 128 bits. -/
def maxU128 : Nat := Nat.pow 2 128 - 1

/-- The name of the program. -/
def programName : Text := "smove"

/-- The option for the directory of a package. -/
def directoryOption : OptionSpec := { short? := some 'p', long := "path" }

/-- The directory of the package, which is the working directory unless the option is given. -/
def directoryIn (s : Settings) : Option Text :=
  if s.has "path" then s.text? "path" else some "."

/-- The option for an account. -/
def accountOption (isRequired : Bool) : OptionSpec :=
  { short? := some 'a', long := "account-id", kind := .account, isRequired }

/-- The options of a script that somebody pays for belong together. -/
def payerIn (s : Settings) : Except Problem (Option (Option Text × Option Nat)) :=
  if s.has "account-id" ≠ s.has "cheque-limit" then
    .error (.unpaired "account-id" "cheque-limit")
  else if s.has "account-id" then .ok (some (s.text? "account-id", s.number? "cheque-limit"))
  else .ok none

/-- An outcome of reading a command line. -/
abbrev Built := Except Problem Command

/-- The command that asks a node for something. -/
def asking (s : Settings) (request : NodeRequest) : Command :=
  .ask (if s.has "url" then .given (s.text? "url") else .usual) request

/-- The commands that ask a node. -/
def nodeGrammar : List (String × CommandSpec Built) :=
  [("estimate-gas-publish-module", .action
      [accountOption true, { short? := some 'm', long := "module-path", isRequired := true }]
      fun s => .ok (asking s
        (.publishModule (s.text? "account-id") (s.text? "module-path")))),
   ("estimate-gas-publish-bundle", .action
      [accountOption true, { short? := some 'b', long := "bundle-path", isRequired := true }]
      fun s => .ok (asking s
        (.publishBundle (s.text? "account-id") (s.text? "bundle-path")))),
   ("estimate-gas-execute-script", .action
      [{ short? := some 's', long := "script-transaction-path", isRequired := true },
       accountOption false,
       { short? := some 'c', long := "cheque-limit", kind := .unsigned maxU128 "u128" }]
      fun s => (payerIn s).map fun payer? =>
        asking s (.executeScript (s.text? "script-transaction-path") payer?)),
   ("gas-to-weight", .action
      [{ short? := some 'g', long := "gas", kind := .unsigned maxU64 "u64", isRequired := true }]
      fun s => .ok (asking s (.gasToWeight (s.number? "gas")))),
   ("get-module-abi", .action
      [{ short? := some 'a', long := "address", isRequired := true },
       { short? := some 'n', long := "name", isRequired := true }]
      fun s => .ok (asking s (.moduleInterface (s.text? "address") (s.text? "name"))))]

/-- All commands. -/
def grammar : CommandSpec Built :=
  .group [{ short? := some 'v', long := "verbose", arity := .none }] "command"
    [("bundle", .action
        [directoryOption, { short? := some 'n', long := "name" },
         { long := "modules_exclude", arity := .many }, { long := "no-build", arity := .none }]
        fun s => .ok (.bundle (directoryIn s) (s.text? "name") (s.texts "modules_exclude")
          (!s.has "no-build"))),
     ("create-transaction", .action
        [{ short? := some 'c', long := "compiled-script-path", isRequired := true },
         directoryOption, { long := "type-args", arity := .many },
         { long := "args", arity := .many }]
        fun s => .ok (.createTransaction (s.text? "compiled-script-path") (directoryIn s)
          (s.texts "type-args") (s.texts "args"))),
     ("call-hash", .action
        [{ short? := some 's', long := "script-transaction-path", isRequired := true }]
        fun s => .ok (.callHash (s.text? "script-transaction-path"))),
     ("node", .group [{ long := "url" }] "node_command"
        [("rpc", .group [] "rpc_command" nodeGrammar)])]

end MovePack.Command

namespace MovePack.Invocation

open Options

/-- The command that the words of a command line ask for. -/
def ofWords (words : List Text) : Except Options.Stop Invocation := do
  let reading ← Command.grammar.read Command.programName words
  match reading.extras with
  | [] =>
    match reading.build reading.settings with
    | .ok command => return ⟨command, reading.settings.count "verbose"⟩
    | .error problem => throw (.misused Command.programName problem)
  | extras => throw (.misused Command.programName (.unrecognized extras))

end MovePack.Invocation
