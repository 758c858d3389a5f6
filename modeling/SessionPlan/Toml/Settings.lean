/-
Server settings in a document.

Settings are a table whose values are all strings. Anything else is refused with a message that
names a type, and for a table also the first offending key in the order of keys, whatever the order
of the document.

A document has no way to nest a date-time inside text. Where a value passes through a reader that
knows no date-times, one is therefore carried as a table with the single key `privateKey` and its
text; and a table whose first key is that one is taken for a date-time again.
-/
import SessionPlan.ParameterError
import SessionPlan.TextMap
import SessionPlan.Toml.Document

set_option autoImplicit false

namespace SessionPlan

namespace Toml

/-- The key under which a date-time is carried as text. -/
def privateKey : String := "$__toml_private_datetime"

mutual

/-- A value with the tables that carry date-times turned into those; none if the text of one spells
no date-time. -/
def Value.restored? : Value → Option Value
  | .array elements => (Value.restoredElements? elements).map .array
  | .table [] => some (.table [])
  | .table ((key, value) :: entries) =>
    if key = privateKey then
      match value with
      | .string text => (DateTime.ofText? text.toList).map .datetime
      | _ => none
    else do
      let value ← value.restored?
      let entries ← Value.restoredEntries? entries
      some (.table ((key, value) :: entries))
  | value => some value

/-- The elements of an array, each restored. -/
def Value.restoredElements? : List Value → Option (List Value)
  | [] => some []
  | value :: r => do
    let value ← value.restored?
    let rest ← Value.restoredElements? r
    some (value :: rest)

/-- The entries of a table, each restored. -/
def Value.restoredEntries? : List (String × Value) → Option (List (String × Value))
  | [] => some []
  | (key, value) :: r => do
    let value ← value.restored?
    let rest ← Value.restoredEntries? r
    some ((key, value) :: rest)

end

/-- The root table of a document as a value. -/
def ofText? (text : String) : Option Value :=
  (parse? text).bind fun entries => Value.restored? (.table entries)

end Toml

namespace Settings

open Toml (Value)

/-- Checks that all values are strings, in the given order. -/
def ofEntries : List (String × Value) → Except ParameterError (TextMap String)
  | [] => .ok .empty
  | (key, .string text) :: r => (ofEntries r).map fun settings => settings.insert key text
  | (key, value) :: _ =>
    .error (.invalidServerSettings
      ("value of " ++ Text.quoted key ++ " is a " ++ value.typeName ++ ", not a string"))

/-- The server settings that a value of a document gives. -/
def ofToml : Value → Except ParameterError (TextMap String)
  | .table entries => ofEntries (TextMap.ofList entries).entries
  | value => .error (.invalidServerSettings ("expected a table, got " ++ value.typeName))

end Settings

end SessionPlan
