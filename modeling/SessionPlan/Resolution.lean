/-
Resolution: from arguments, connection string and environment to targets and parameters.

The connection string is read first, then the addresses are settled, then the credentials. Server
settings cannot fail: they are the query fields that nothing else takes, under those of the
arguments.
-/
import SessionPlan.Parameters
import SessionPlan.Resolution.Addresses
import SessionPlan.Resolution.Credentials
import SessionPlan.Target

set_option autoImplicit false

namespace SessionPlan

/-- A connection that is ready to be tried. -/
structure Resolution where
  /-- The targets, in the order in which they are tried. -/
  targets : List Target
  parameters : Parameters
  /-- The hosts under which stored credentials are looked up. -/
  authHosts : List String
deriving DecidableEq

namespace Resolution

/-- The query keys that say something about addresses or credentials. -/
def reservedKeys : List String := ["port", "host", "dbname", "database", "user", "password"]

/-- The server settings: explicit ones win over those of the query, and a query without any changes
nothing. -/
def serverSettings (args : Arguments) (dsn : Dsn) : Option (TextMap String) :=
  let fromQuery := dsn.query.eraseAll reservedKeys
  if fromQuery.isEmpty then args.serverSettings
  else some (fromQuery.override (args.serverSettings.getD .empty))

/-- The connection string of the arguments; without one, that which says nothing. -/
def readDsn (args : Arguments) : Except ParameterError Dsn :=
  match args.dsn.bind nonEmpty with
  | some text => Dsn.parse text
  | none => .ok {}

/-- One target for each host with its port. -/
def targetsOf (addresses : Addresses) : List Target :=
  (addresses.hosts.zip addresses.ports).map fun (host, port) => Target.ofHost host port

/-- The parameters of a session. -/
def parametersOf (args : Arguments) (dsn : Dsn) (credentials : Credentials) : Parameters where
  user := credentials.user
  password := credentials.password
  database := credentials.database
  connectTimeout := args.connectTimeout
  serverSettings := serverSettings args dsn

/-- The resolution that settled addresses and credentials make; there must be a target. -/
def assemble (args : Arguments) (dsn : Dsn) (addresses : Addresses) (credentials : Credentials) :
    Except ParameterError Resolution :=
  if targetsOf addresses = [] then .error .noAddresses
  else .ok ⟨targetsOf addresses, parametersOf args dsn credentials, addresses.authHosts⟩

end Resolution

/-- Resolves arguments in an environment. -/
def resolve (args : Arguments) (env : Environment) : Except ParameterError Resolution := do
  let dsn ← Resolution.readDsn args
  let addresses ← Addresses.resolve args dsn env
  let credentials ← Credentials.resolve args dsn env
  Resolution.assemble args dsn addresses credentials

end SessionPlan
