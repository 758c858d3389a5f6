/-
Configuration files.

    [connection]
    dsn = "edgedb://alice@db.internal/app"
    command_timeout = 30

    [connection.server_settings]
    application_name = "reporting"

The table `connection` of a document holds arguments and a command timeout; other keys of the
document belong to other programs. The document must be well-formed as a whole before its server
settings are looked at, and those before anything is resolved.
-/
import SessionPlan.Plan
import SessionPlan.Toml.Document
import SessionPlan.Toml.Fields
import SessionPlan.Toml.Settings

set_option autoImplicit false

namespace SessionPlan

namespace Toml

/-- A command timeout in any of its forms. -/
def Value.asCommandTimeout? : Value → Option CommandTimeout
  | .boolean b => some (.flag b)
  | .integer n => some (.whole n)
  | .float x => some (.real x)
  | .string text => some (.numeral text)
  | _ => none

end Toml

/-- Arguments and a command timeout, neither of them checked. -/
structure Configuration where
  args : Arguments := {}
  commandTimeout : Option CommandTimeout := none
deriving DecidableEq

namespace Configuration

/-- The fields of a connection, in their fixed order. -/
def fieldNames : List String :=
  ["dsn", "host", "port", "user", "password", "database", "connect_timeout", "command_timeout",
    "server_settings"]

/-- The fields that a value of a document gives; none if it is no connection. -/
def fields? : Toml.Value → Option (List (String × Toml.Value))
  | .table entries => if Toml.keysAmong fieldNames entries then some entries else none
  | .array elements => some (fieldNames.zip elements)
  | _ => none

/-- A connection whose server settings are not checked yet. -/
structure Draft where
  configuration : Configuration
  serverSettings : Option Toml.Value
deriving DecidableEq

/-- The connection that a value of a document describes. -/
def Draft.ofValue? (value : Toml.Value) : Option Draft := do
  let entries ← fields? value
  let args ← Toml.argumentFields? entries
  let commandTimeout ← Toml.field? entries "command_timeout" Toml.Value.asCommandTimeout?
  let serverSettings ← Toml.field? entries "server_settings" Toml.Value.restored?
  some ⟨{ args, commandTimeout }, serverSettings⟩

/-- The connection that a document describes. One without the table says nothing. -/
def Draft.ofDocument? (text : String) : Option Draft := do
  let root ← Toml.parse? text
  match root.lookup "connection" with
  | none => some ⟨{}, none⟩
  | some value => ofValue? value

/-- Checks the server settings of a draft. -/
def ofDraft (draft : Draft) : Except ParameterError Configuration :=
  match draft.serverSettings with
  | none => .ok draft.configuration
  | some value => (Settings.ofToml value).map fun settings =>
    { draft.configuration with
      args := { draft.configuration.args with serverSettings := some settings } }

/-- Reads a document. -/
def ofText (text : String) : Except PlanError Configuration :=
  match Draft.ofDocument? text with
  | none => .error .malformedDocument
  | some draft => (ofDraft draft).mapError .parameters

/-- Reads a file with the given contents; there are none if it does not exist. -/
def ofFile (contents : Option (List UInt8)) : Except PlanError Configuration :=
  match contents.bind Text.Utf8.decode? with
  | none => .error .unreadableFile
  | some text => ofText (String.ofList text)

/-- Plans the connection of a configuration. -/
def plan (c : Configuration) (env : Environment) : Except PlanError Plan :=
  SessionPlan.plan c.args c.commandTimeout env

end Configuration

end SessionPlan
