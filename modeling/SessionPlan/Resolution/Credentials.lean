/-
Who connects, and to which database.

Each of the three fields is the first one present in a fixed order of sources: the argument, the
connection string (its authority or path, then its query), the environment and, for the database,
the name of the user.
-/
import SessionPlan.Arguments
import SessionPlan.Dsn

set_option autoImplicit false

namespace SessionPlan

/-- User, password and database of a session. -/
structure Credentials where
  user : String
  password : Option String
  database : String
deriving DecidableEq

namespace Credentials

/-- The user, if any source names one. -/
def user? (args : Arguments) (dsn : Dsn) (env : Environment) : Option String :=
  (args.user.bind nonEmpty).or <| dsn.user.or <| (dsn.query.get? "user").or <|
    (env.nonEmpty? Environment.userVariable).or env.loginUser

/-- The password, if any source holds one. Here alone an empty text counts, from an argument or from
the environment. -/
def password? (args : Arguments) (dsn : Dsn) (env : Environment) : Option String :=
  args.password.or <| dsn.password.or <| (dsn.query.get? "password").or <|
    env.get? Environment.passwordVariable

/-- The database, if any source but the user's name names one. In a query `database` outranks
`dbname`. -/
def database? (args : Arguments) (dsn : Dsn) (env : Environment) : Option String :=
  (args.database.bind nonEmpty).or <| dsn.database.or <| (dsn.query.get? "database").or <|
    (dsn.query.get? "dbname").or (env.nonEmpty? Environment.databaseVariable)

/-- Settles the credentials. -/
def resolve (args : Arguments) (dsn : Dsn) (env : Environment) :
    Except ParameterError Credentials :=
  match user? args dsn env with
  | none => .error .missingUser
  | some user =>
    let database := (database? args dsn env).getD user
    if database = "" then .error .missingDatabase
    else .ok ⟨user, password? args dsn env, database⟩

end Credentials

end SessionPlan
