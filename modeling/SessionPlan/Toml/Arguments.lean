/-
Documents that hold arguments and nothing else.

The root table of such a document is the connection itself. Its server settings must be a table of
strings here and now; a document that breaks this is malformed like any other.
-/
import SessionPlan.Toml.Document
import SessionPlan.Toml.Fields
import SessionPlan.Toml.Settings

set_option autoImplicit false

namespace SessionPlan

namespace Toml

/-- The names of the arguments. -/
def argumentNames : List String :=
  ["dsn", "host", "port", "user", "password", "database", "connect_timeout", "server_settings"]

/-- An entry whose value is a string. -/
def textEntry? (entry : String × Value) : Option (String × String) :=
  entry.2.asText?.map fun text => (entry.1, text)

/-- A table of strings. A date-time passes for the table that carries it. -/
def Value.asSettings? : Value → Option (TextMap String)
  | .table entries => (entries.mapM textEntry?).map TextMap.ofList
  | .datetime d => some (.ofList [(privateKey, d.shown)])
  | _ => none

end Toml

namespace Arguments

/-- The arguments in the entries of a table. -/
def ofEntries? (entries : List (String × Toml.Value)) : Option Arguments :=
  if Toml.keysAmong Toml.argumentNames entries then do
    let args ← Toml.argumentFields? entries
    let serverSettings ← Toml.field? entries "server_settings" Toml.Value.asSettings?
    some { args with serverSettings }
  else none

/-- The arguments in a document. -/
def ofDocument? (text : String) : Option Arguments := (Toml.parse? text).bind ofEntries?

end Arguments

end SessionPlan
