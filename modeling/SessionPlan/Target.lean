/-
Connection targets: the addresses that a client tries, one after the other.

A host that begins with a slash is a socket: its path is the host itself when it already names a
socket file, and otherwise the file for the port inside that directory. Every other host is a TCP
endpoint.

Two socket targets are **the same** when their paths have the same components, so that repeated and
trailing slashes and the components `.` make no difference, while `..` stays.
-/
import SessionPlan.Text.Split

set_option autoImplicit false

namespace SessionPlan

/-- What every socket file name contains, in front of the port. -/
def socketMarker : String := ".s.EDGEDB."

/-- One address that a client may try. -/
inductive Target where
  | socket (path : String)
  | tcp (host : String) (port : UInt16)
deriving DecidableEq

namespace Target

/-- The decimal digits of a port. -/
def portDigits (port : UInt16) : List Char := Nat.toDigits 10 port.toNat

/-- The path of the socket file for a port inside a directory; a slash is put between the two unless
the directory ends in one. -/
def socketPath (directory : List Char) (port : UInt16) : List Char :=
  let slash := if directory.getLast? = some '/' then [] else ['/']
  directory ++ slash ++ socketMarker.toList ++ portDigits port

/-- The target for a host and a port. -/
def ofHost (host : String) (port : UInt16) : Target :=
  if host.toList.head? = some '/' then
    if Text.holds socketMarker.toList host.toList then .socket host
    else .socket (String.ofList (socketPath host.toList port))
  else .tcp host port

/-- Whether a target is a socket. -/
def isSocket : Target → Bool
  | .socket _ => true
  | .tcp _ _ => false

/-- How a target is shown: its path, or host and port with a colon between them. -/
def shown : Target → String
  | .socket path => path
  | .tcp host port => String.ofList (host.toList ++ ':' :: portDigits port)

/-- The components of an absolute path. -/
def components (path : List Char) : List (List Char) :=
  (path.splitOn '/').filter fun part => part ≠ [] ∧ part ≠ ['.']

/-- Whether two targets are the same address. -/
def sameAs : Target → Target → Bool
  | .socket path, .socket path' => components path.toList = components path'.toList
  | .tcp host port, .tcp host' port' => host = host' && port = port'
  | _, _ => false

end Target

end SessionPlan
