/-
Command timeouts.

A timeout comes as a number of seconds, as text that spells one, or as a truth value. It is accepted
when it is a number greater than zero; a truth value never is, and NaN is not greater than zero. A
refused timeout is repeated in the error as it was given.
-/
import SessionPlan.Binary64.Numeral
import SessionPlan.Binary64.Shown
import SessionPlan.Duration
import SessionPlan.Text.Blank
import SessionPlan.Text.Quoted

set_option autoImplicit false

namespace SessionPlan

/-- A command timeout as a caller gives it. -/
inductive CommandTimeout where
  | flag (value : Bool)
  | whole (seconds : Int)
  | real (seconds : Binary64)
  | numeral (text : String)
deriving DecidableEq

namespace CommandTimeout

/-- The timeout that a duration stands for. -/
def ofDuration (d : Duration) : CommandTimeout := .real d.toSeconds

/-- The number of seconds that a timeout names, whatever its sign. -/
def number? : CommandTimeout → Option Binary64
  | .flag _ => none
  | .whole seconds => some (Binary64.ofInt seconds)
  | .real seconds => some seconds
  | .numeral text => Binary64.ofNumeral? (Text.trim text.toList)

/-- How a timeout is shown. -/
def shown : CommandTimeout → String
  | .flag value => if value then "true" else "false"
  | .whole seconds => toString seconds
  | .real seconds => seconds.shown
  | .numeral text => Text.quoted text

/-- The seconds of an acceptable timeout. -/
def seconds? (timeout : CommandTimeout) : Option Binary64 :=
  timeout.number?.filter Binary64.isPositive

end CommandTimeout

end SessionPlan
