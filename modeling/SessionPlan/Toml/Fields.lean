/-
The fields of a connection in a document.

A connection is a table of fields. Each is optional, each has one or two forms, and a key that is no
field is refused. Where a connection may also be an array, its elements are the fields in their
fixed order; missing ones count as not given, and those beyond the last field are ignored.
-/
import SessionPlan.Arguments
import SessionPlan.Toml.Value

set_option autoImplicit false

namespace SessionPlan.Toml

/-! ## Forms of values -/

/-- A string. -/
def Value.asText? : Value → Option String
  | .string text => some text
  | _ => none

/-- An array, every element of which has the given form. -/
def Value.asList? {α : Type} (element? : Value → Option α) : Value → Option (List α)
  | .array elements => elements.mapM element?
  | _ => none

/-- A host: a string or an array of strings. -/
def Value.asHost? (v : Value) : Option HostSpec :=
  (v.asText?.map .single).or ((v.asList? asText?).map .list)

/-- A port number. -/
def Value.asPortNumber? : Value → Option UInt16
  | .integer n => if 0 ≤ n ∧ n ≤ 65535 then some (UInt16.ofNat n.toNat) else none
  | _ => none

/-- A port: a number or an array of numbers. -/
def Value.asPort? (v : Value) : Option PortSpec :=
  (v.asPortNumber?.map .single).or ((v.asList? asPortNumber?).map .list)

/-- A number of seconds, whole or not. -/
def Value.asSeconds? : Value → Option Binary64
  | .float x => some x
  | .integer n => some (Binary64.ofInt n)
  | _ => none

/-! ## Fields -/

/-- The field of a given name, which must have the given form if it is there. -/
def field? {α : Type} (entries : List (String × Value)) (name : String)
    (form? : Value → Option α) : Option (Option α) :=
  match entries.lookup name with
  | none => some none
  | some value => (form? value).map some

/-- Whether every key is one of the given names. -/
def keysAmong (names : List String) (entries : List (String × Value)) : Bool :=
  entries.all fun e => e.1 ∈ names

/-- The arguments that the fields of a connection give, all but the server settings. -/
def argumentFields? (entries : List (String × Value)) : Option Arguments := do
  let dsn ← field? entries "dsn" Value.asText?
  let host ← field? entries "host" Value.asHost?
  let port ← field? entries "port" Value.asPort?
  let user ← field? entries "user" Value.asText?
  let password ← field? entries "password" Value.asText?
  let database ← field? entries "database" Value.asText?
  let connectTimeout ← field? entries "connect_timeout" Value.asSeconds?
  some { dsn, host, port, user, password, database, connectTimeout }

end SessionPlan.Toml
