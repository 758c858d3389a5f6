/-
Connection strings (DSNs).

    edgedb://[user[:password]@]host[:port][,host[:port]...][/database][?key=value&...][#...]

A string is first **cut** into its raw parts; this fails only for want of the scheme. The parts are
then **decoded**: the query first, then user, password and database, so that of two faults the one
in the query is reported. The host list stays as it is, since it is read later, together with the
ports.

The cuts are made from the outside in: the fragment goes first, then the query, then the authority
up to the next slash. Within the authority the last `@` ends the user information, whose first
colon separates user and password.
-/
import SessionPlan.ParameterError
import SessionPlan.Text.Percent
import SessionPlan.Text.Split
import SessionPlan.TextMap

set_option autoImplicit false

namespace SessionPlan

/-- A decoded connection string. An empty part counts as absent. -/
structure Dsn where
  user : Option String := none
  password : Option String := none
  /-- The host list, as written. -/
  hostList : Option String := none
  database : Option String := none
  query : TextMap String := .empty
deriving DecidableEq

namespace Dsn

/-! ## Raw parts -/

/-- The parts of a connection string behind the scheme, as written and without their delimiters. -/
structure Parts where
  user : List Char
  password : List Char
  hostList : List Char
  database : List Char
  query : List Char
deriving DecidableEq

/-- The authority and the path: the authority follows two slashes and ends before the next one. -/
def cutAuthority : List Char → List Char × List Char
  | '/' :: '/' :: r => (r.takeWhile (· ≠ '/'), r.dropWhile (· ≠ '/'))
  | path => ([], path)

/-- A path without the slash in front. -/
def dropSlash : List Char → List Char
  | '/' :: r => r
  | path => path

/-- Cuts what follows the colon of the scheme into its parts. -/
def Parts.cut (s : List Char) : Parts :=
  let beforeFragment := (Text.cutOff '#' s).1
  let (hierarchy, query) := Text.cutOff '?' beforeFragment
  let (authority, path) := cutAuthority hierarchy
  let (userInfo, hostList) := (Text.cutAtLast '@' authority).getD ([], authority)
  let (user, password) := Text.cutOff ':' userInfo
  ⟨user, password, hostList, dropSlash path, query⟩

/-! ## Decoding -/

/-- Decodes one part; an empty part is absent. -/
def decodePart (part : List Char) : Except ParameterError (Option String) :=
  if part = [] then .ok none
  else
    match Text.Percent.decode? part with
    | some text => .ok (some (String.ofList text))
    | none =>
      .error (.invalidDsn
        (Text.quoted (String.ofList part) ++ " is not valid UTF-8 once decoded"))

/-- Reads one field of a query into the map of those before it. A field needs an equals sign; one
with an empty value says nothing. -/
def readField (query : TextMap String) (field : List Char) :
    Except ParameterError (TextMap String) :=
  match Text.cutAtFirst '=' field with
  | none => .error (.invalidQuery (String.ofList field))
  | some (key, value) =>
    let value := Text.Percent.decodeForm value
    if value = [] then .ok query
    else .ok (query.insert (String.ofList (Text.Percent.decodeForm key)) (String.ofList value))

/-- Reads a query: fields with ampersands between them, of which the last one of each key counts. -/
def readQuery (query : List Char) : Except ParameterError (TextMap String) :=
  if query = [] then .ok .empty else (query.splitOn '&').foldlM readField .empty

/-- Decodes the parts of a connection string. -/
def Parts.decode (parts : Parts) : Except ParameterError Dsn := do
  let query ← readQuery parts.query
  let user ← decodePart parts.user
  let password ← decodePart parts.password
  let database ← decodePart parts.database
  let hostList := if parts.hostList = [] then none else some (String.ofList parts.hostList)
  pure { user, password, hostList, database, query }

/-- Reads a connection string. -/
def parse (text : String) : Except ParameterError Dsn :=
  match Text.cutAtFirst ':' text.toList with
  | none => .error (.invalidDsn "missing scheme")
  | some (scheme, rest) =>
    if String.ofList scheme = dsnScheme then (Parts.cut rest).decode
    else .error (.invalidScheme (String.ofList scheme))

end Dsn

end SessionPlan
