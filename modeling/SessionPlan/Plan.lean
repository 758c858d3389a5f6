/-
Connection plans: everything a client needs before it opens the first connection.

A plan adds the checked command timeout to a resolution. The timeout is checked first, so a bad one
is reported whatever the arguments and the environment hold; a good one has no influence on the
rest.
-/
import SessionPlan.CommandTimeout
import SessionPlan.Resolution

set_option autoImplicit false

namespace SessionPlan

/-! ## Errors -/

/-- Why there is no plan. -/
inductive PlanError where
  | parameters (error : ParameterError)
  /-- A timeout that is not a number greater than zero, as it is shown. -/
  | invalidCommandTimeout (given : String)
  /-- A file that is missing or is not text. -/
  | unreadableFile
  /-- A document that is not TOML, or holds values of the wrong form. -/
  | malformedDocument
deriving DecidableEq

namespace PlanError

/-- The text of an error; errors of files and documents have none of their own. -/
def message? : PlanError → Option String
  | .parameters error => some error.message
  | .invalidCommandTimeout given => some
      ("invalid command_timeout value: expected greater than 0 float (got " ++ given ++ ")")
  | .unreadableFile | .malformedDocument => none

/-- A stable name for the kind of an error. -/
def code : PlanError → String
  | .parameters error => error.code
  | .invalidCommandTimeout _ => "edgedb::connect::command_timeout"
  | .unreadableFile => "edgedb::connect::io"
  | .malformedDocument => "edgedb::connect::toml"

/-- What to do about an error, where there is something to say. -/
def help? : PlanError → Option String
  | .parameters error => error.help?
  | _ => none

/-- Whether the settings as a whole are at fault. -/
def isConfigurationFault : PlanError → Bool
  | .parameters error => error.isConfigurationFault
  | _ => false

/-- Whether a single value is at fault. -/
def isValueFault : PlanError → Bool
  | .parameters error => error.isValueFault
  | .invalidCommandTimeout _ => true
  | .unreadableFile | .malformedDocument => false

end PlanError

/-! ## Client settings -/

/-- What a client keeps to itself. -/
structure ClientSettings where
  /-- Seconds, greater than zero. -/
  commandTimeout : Option Binary64
deriving DecidableEq

namespace ClientSettings

/-- The settings with a timeout, if it is acceptable. -/
def ofTimeout : Option CommandTimeout → Except PlanError ClientSettings
  | none => .ok ⟨none⟩
  | some timeout =>
    match timeout.seconds? with
    | some seconds => .ok ⟨some seconds⟩
    | none => .error (.invalidCommandTimeout timeout.shown)

/-- The timeout as a duration, if it has one. -/
def duration? (c : ClientSettings) : Option Duration := c.commandTimeout.bind Duration.ofSeconds?

end ClientSettings

/-! ## Plans -/

/-- What a client needs to connect. -/
structure Plan where
  targets : List Target
  parameters : Parameters
  client : ClientSettings
  authHosts : List String
deriving DecidableEq

/-- The plan of a resolution and client settings. -/
def Plan.ofResolution (r : Resolution) (client : ClientSettings) : Plan where
  targets := r.targets
  parameters := r.parameters
  client := client
  authHosts := r.authHosts

/-- Plans a connection. -/
def plan (args : Arguments) (timeout : Option CommandTimeout) (env : Environment) :
    Except PlanError Plan := do
  let client ← ClientSettings.ofTimeout timeout
  let resolution ← (resolve args env).mapError .parameters
  pure (Plan.ofResolution resolution client)

end SessionPlan
