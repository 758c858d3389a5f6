/-
Printing connection strings.

Every part but the host list is percent-encoded, so no delimiter survives inside one and each cut of
the reader falls where the printer put a delimiter. The fields of the query are given as a list: a
map of settings has many printed forms, one for each order.
-/
import SessionPlan.Dsn

set_option autoImplicit false

namespace SessionPlan.Dsn

/-- The user information with its closing `@`; nothing if there is neither user nor password. -/
def printUserInfo (user password : Option String) : List Char :=
  let encoded (part : Option String) := Text.Percent.encode (part.getD "").toList
  match user, password with
  | none, none => []
  | _, none => encoded user ++ ['@']
  | _, some _ => encoded user ++ ':' :: encoded password ++ ['@']

/-- One field of a query. -/
def printField (field : String × String) : List Char :=
  Text.Percent.encode field.1.toList ++ '=' :: Text.Percent.encode field.2.toList

/-- The connection string with the user, password, host list and database of `dsn`, and the given
query fields. -/
def print (dsn : Dsn) (fields : List (String × String)) : String :=
  String.ofList (dsnScheme.toList ++ "://".toList
    ++ printUserInfo dsn.user dsn.password
    ++ (dsn.hostList.getD "").toList
    ++ '/' :: Text.Percent.encode (dsn.database.getD "").toList
    ++ '?' :: ['&'].intercalate (fields.map printField))

end SessionPlan.Dsn
