/-
# The timeout of a request

How long a request may take can be set from outside, as a positive number of seconds.
-/
import MovePack.Number.Notation
import MovePack.Number.Numeral
import MovePack.Text.Quoted

namespace MovePack

/-- Why a timeout is refused. -/
inductive TimeoutFault where
  /-- The setting is no positive number. -/
  | notPositive (setting : Text)
deriving DecidableEq, Repr

/-- The message of a refused timeout. -/
def TimeoutFault.message : TimeoutFault → Text
  | .notPositive setting =>
    "Invalid SMOVE_RPC_TIMEOUT " ++ setting.quoted ++ ": expected a positive number"

namespace Timeout

/-- The timeout in seconds where none is set. -/
def standard : Binary64 := Binary64.ofDecimal false 60 0

/-- The timeout in seconds of a setting. -/
def ofSetting : Option Text → Except TimeoutFault Binary64
  | none => .ok standard
  | some setting =>
    match Numeral.number? setting with
    | some seconds => if seconds.isPositive then .ok seconds else .error (.notPositive setting)
    | none => .error (.notPositive setting)

end Timeout

end MovePack
