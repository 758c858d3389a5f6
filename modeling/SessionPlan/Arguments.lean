/-
The arguments of a call: what the caller says about the connection, field by field.

Nothing is checked here. An empty text or list in a field counts as not given when the arguments are
resolved; only an empty password counts as a password.
-/
import SessionPlan.Binary64
import SessionPlan.HostList
import SessionPlan.TextMap

set_option autoImplicit false

namespace SessionPlan

/-- What a caller says about a connection. -/
structure Arguments where
  dsn : Option String := none
  host : Option HostSpec := none
  port : Option PortSpec := none
  user : Option String := none
  password : Option String := none
  database : Option String := none
  /-- Seconds, passed on as they are. -/
  connectTimeout : Option Binary64 := none
  serverSettings : Option (TextMap String) := none
deriving DecidableEq

/-- Arguments with one more server setting. -/
def Arguments.addServerSetting (args : Arguments) (name value : String) : Arguments :=
  { args with serverSettings := some ((args.serverSettings.getD .empty).insert name value) }

end SessionPlan
