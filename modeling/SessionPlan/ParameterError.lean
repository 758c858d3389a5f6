/-
Why connection parameters cannot be determined.

A fault is a **configuration** fault when the whole of the settings does not fit together, and a
**value** fault when one text is malformed. Texts that a message repeats are quoted.
-/
import SessionPlan.Text.Quoted

set_option autoImplicit false

namespace SessionPlan

/-- The scheme of a connection string. -/
def dsnScheme : String := "edgedb"

/-- Why connection parameters cannot be determined. -/
inductive ParameterError where
  /-- A connection string of another scheme. -/
  | invalidScheme (got : String)
  /-- A connection string that is malformed or holds bytes that are not UTF-8. -/
  | invalidDsn (reason : String)
  /-- A list of ports that is not as long as the list of hosts. -/
  | portCountMismatch (ports hosts : Nat)
  | missingUser
  | missingDatabase
  /-- A text that is no port number, and where it stood. -/
  | invalidPort (value source : String)
  /-- A query field without an equals sign. -/
  | invalidQuery (field : String)
  /-- Server settings that are not a mapping of texts to texts. -/
  | invalidServerSettings (reason : String)
  | noAddresses
deriving DecidableEq

namespace ParameterError

/-- The text of an error. -/
def message : ParameterError → String
  | .invalidScheme got =>
    "invalid DSN: scheme is expected to be " ++ Text.quoted dsnScheme ++ ", got "
      ++ Text.quoted got
  | .invalidDsn reason => "invalid DSN: " ++ reason
  | .portCountMismatch ports hosts =>
    "could not match " ++ toString ports ++ " port numbers to " ++ toString hosts ++ " hosts"
  | .missingUser => "could not determine user name to connect with"
  | .missingDatabase => "could not determine database name to connect to"
  | .invalidPort value source => "invalid port " ++ Text.quoted value ++ " in " ++ source
  | .invalidQuery field => "bad query field: " ++ Text.quoted field
  | .invalidServerSettings reason =>
    "server_settings is expected to be a mapping of strings to strings: " ++ reason
  | .noAddresses => "could not determine the database address to connect to"

/-- A stable name for the kind of an error. -/
def code : ParameterError → String
  | .invalidScheme _ => "edgedb::params::scheme"
  | .invalidDsn _ => "edgedb::params::dsn"
  | .portCountMismatch _ _ => "edgedb::params::port_count"
  | .missingUser => "edgedb::params::user"
  | .missingDatabase => "edgedb::params::database"
  | .invalidPort _ _ => "edgedb::params::port"
  | .invalidQuery _ => "edgedb::params::query"
  | .invalidServerSettings _ => "edgedb::params::server_settings"
  | .noAddresses => "edgedb::params::address"

/-- What to do about an error, where there is something to say. -/
def help? : ParameterError → Option String
  | .missingUser => some "pass a user explicitly, put one in the DSN, or set EDGEDB_USER"
  | .missingDatabase =>
    some "pass a database explicitly, put one in the DSN, or set EDGEDB_DATABASE"
  | _ => none

/-- Whether the settings as a whole are at fault. -/
def isConfigurationFault : ParameterError → Bool
  | .invalidScheme _ | .portCountMismatch _ _ | .missingUser | .missingDatabase => true
  | _ => false

/-- Whether a single text is at fault. -/
def isValueFault (e : ParameterError) : Bool := !e.isConfigurationFault

end ParameterError

end SessionPlan
