/-
The session parameters that all targets share, and how they are shown in a log.

**The password never appears in the shown form**: a fixed word stands in its place, so that the form
tells only whether there is one.
-/
import SessionPlan.Binary64.Shown
import SessionPlan.Text.Quoted
import SessionPlan.TextMap

set_option autoImplicit false

namespace SessionPlan

/-- What a client sends to whichever target it reaches. -/
structure Parameters where
  user : String
  password : Option String
  database : String
  /-- Seconds. -/
  connectTimeout : Option Binary64
  serverSettings : Option (TextMap String)
deriving DecidableEq

namespace Parameters

/-- The word that stands in place of a password. -/
def redacted : String := "<redacted>"

/-- A shown value: a text without structure, an optional value, or a list of entries between
braces. -/
inductive Shown where
  | plain (text : String)
  | absent
  | present (value : Shown)
  | mapping (entries : List (String × String))

/-- The values of the five fields, the password hidden. -/
def fields (p : Parameters) : List (String × Shown) := [
  ("user", .plain (Text.quoted p.user)),
  ("password", match p.password with
    | none => .absent
    | some _ => .present (.plain (Text.quoted redacted))),
  ("database", .plain (Text.quoted p.database)),
  ("connect_timeout", match p.connectTimeout with
    | none => .absent
    | some seconds => .present (.plain seconds.shown)),
  ("server_settings", match p.serverSettings with
    | none => .absent
    | some settings => .present (.mapping
        (settings.entries.map fun (key, value) => (Text.quoted key, Text.quoted value))))]

/-- The name in front of the fields. -/
def typeName : String := "ConnectionParameters"

/-! ## On one line -/

/-- A value on one line. -/
def Shown.line : Shown → String
  | .plain text => text
  | .absent => "None"
  | .present value => "Some(" ++ value.line ++ ")"
  | .mapping entries =>
    "\x7b" ++ ", ".intercalate (entries.map fun (key, value) => key ++ ": " ++ value) ++ "\x7d"

/-- The parameters on one line. -/
def line (p : Parameters) : String :=
  typeName ++ " \x7b "
    ++ ", ".intercalate (p.fields.map fun (name, value) => name ++ ": " ++ value.line) ++ " \x7d"

/-! ## Over several lines -/

/-- The start of a line, four spaces for each level. -/
def indent (level : Nat) : String := String.ofList (List.replicate (4 * level) ' ')

/-- A value over several lines, of which the first is already indented and the others start at
`level`. -/
def Shown.block (level : Nat) : Shown → String
  | .plain text => text
  | .absent => "None"
  | .present value =>
    "Some(\n" ++ indent (level + 1) ++ value.block (level + 1) ++ ",\n" ++ indent level ++ ")"
  | .mapping [] => "\x7b\x7d"
  | .mapping entries =>
    "\x7b\n" ++ String.join (entries.map fun (key, value) =>
      indent (level + 1) ++ key ++ ": " ++ value ++ ",\n") ++ indent level ++ "\x7d"

/-- The parameters over several lines, one field on each. -/
def block (p : Parameters) : String :=
  typeName ++ " \x7b\n"
    ++ String.join (p.fields.map fun (name, value) =>
      indent 1 ++ name ++ ": " ++ value.block 1 ++ ",\n") ++ "\x7d"

end Parameters

end SessionPlan
