/-
What the surroundings of a connection know: variables, the login user and the platform.

An environment is only ever asked these three things, so it is a record of the three answers. The
usual one looks up variables and takes the login user from them. A **variable set** is an
environment under construction, for callers that bring their own variables.
-/
import SessionPlan.Text.Utf8
import SessionPlan.TextMap

set_option autoImplicit false

namespace SessionPlan

/-- The operating systems that differ in where a server is looked for. -/
inductive Platform where
  | windows
  | unix
deriving DecidableEq

/-- A text unless it is empty. -/
def nonEmpty (s : String) : Option String := if s = "" then none else some s

/-- The answers of an environment. -/
structure Environment where
  /-- The value of a variable, if it is set. -/
  get? : String → Option String
  /-- The name that the current user is logged in with. -/
  loginUser : Option String
  platform : Platform

namespace Environment

/-! ## Variables -/

/-- The variable that lists the hosts. -/
def hostVariable : String := "EDGEDB_HOST"

/-- The variable that names the port, or one port for each host. -/
def portVariable : String := "EDGEDB_PORT"

/-- The variable that names the user. -/
def userVariable : String := "EDGEDB_USER"

/-- The variable that holds the password. -/
def passwordVariable : String := "EDGEDB_PASSWORD"

/-- The variable that names the database. -/
def databaseVariable : String := "EDGEDB_DATABASE"

/-- The variables that may hold the login user, the first to be asked first. -/
def loginVariables : List String := ["LOGNAME", "USER", "LNAME", "USERNAME"]

/-- The value of a variable, if it is set and not empty. -/
def nonEmpty? (env : Environment) (name : String) : Option String :=
  (env.get? name).bind nonEmpty

/-! ## Constructions -/

/-- The environment with the given variables: the login user is the first login variable that is
not empty, or else the name of the account that the program runs under. -/
def ofVariables (get? : String → Option String) (account : Option String) (platform : Platform) :
    Environment where
  get? := get?
  loginUser := (loginVariables.findSome? fun name => (get? name).bind nonEmpty).or account
  platform := platform

/-- The environment whose variables are given by their bytes. A variable whose bytes are not UTF-8
counts as unset. -/
def ofBytes (values : TextMap (List UInt8)) (account : Option String) (platform : Platform) :
    Environment :=
  let get? name :=
    ((values.get? name).bind Text.Utf8.decode?).map String.ofList
  ofVariables get? account platform

/-- An environment in which one variable has another value, or none. -/
def withVariable (env : Environment) (name : String) (value : Option String) : Environment :=
  { env with get? := fun other => if other = name then value else env.get? other }

section

variable {env : Environment} {name other : String} {value : Option String}

@[simp] theorem get?_withVariable :
    (env.withVariable name value).get? other = if other = name then value else env.get? other := rfl

@[simp] theorem loginUser_withVariable :
    (env.withVariable name value).loginUser = env.loginUser := rfl

@[simp] theorem platform_withVariable :
    (env.withVariable name value).platform = env.platform := rfl

theorem nonEmpty?_withVariable (env : Environment) (name : String) (value : Option String) :
    (env.withVariable name value).nonEmpty? name = value.bind nonEmpty := by
  rw [nonEmpty?, get?_withVariable, if_pos rfl]

theorem nonEmpty?_withVariable_of_ne (h : other ≠ name) :
    (env.withVariable name value).nonEmpty? other = env.nonEmpty? other := by
  rw [nonEmpty?, get?_withVariable, if_neg h, nonEmpty?]

end

end Environment

/-- Variables, a login user and a platform, as a caller puts them together. -/
structure VariableSet where
  values : TextMap String := .empty
  user : Option String := none
  platform : Platform := .unix

namespace VariableSet

/-- A set with one more variable. -/
def set (s : VariableSet) (name value : String) : VariableSet :=
  { s with values := s.values.insert name value }

/-- A set with more variables; they win over those it has. -/
def setAll (s : VariableSet) (more : TextMap String) : VariableSet :=
  { s with values := s.values.override more }

/-- The environment that a set describes; an empty login user counts as none. -/
def toEnvironment (s : VariableSet) : Environment where
  get? := s.values.get?
  loginUser := s.user.bind nonEmpty
  platform := s.platform

end VariableSet

end SessionPlan
