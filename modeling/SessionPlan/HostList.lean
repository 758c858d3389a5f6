/-
Hosts, given one by one or as comma-separated text.

A single host is taken as it is and never split. A text list is split at its commas; an entry may
carry a port of its own after its first colon, which wins over the port that the specification
holds for that position. The specification is matched with the number of entries before any entry
is looked at.
-/
import SessionPlan.PortSpec
import SessionPlan.Text.Split

set_option autoImplicit false

namespace SessionPlan

/-- Hosts as a caller gives them. -/
inductive HostSpec where
  /-- One host name or socket directory, commas and colons included. -/
  | single (host : String)
  /-- Hosts to be tried in order. -/
  | list (hosts : List String)
deriving DecidableEq

namespace HostSpec

/-- Whether no host is given: an empty text or an empty list counts as not given. -/
def isEmpty : HostSpec → Bool
  | .single host => host = ""
  | .list hosts => hosts.isEmpty

/-- The hosts in order. -/
def hosts : HostSpec → List String
  | .single host => [host]
  | .list hosts => hosts

/-- A specification unless it is empty. -/
def nonEmpty? (spec : HostSpec) : Option HostSpec := if spec.isEmpty then none else some spec

end HostSpec

/-- Hosts with a port for each. -/
structure HostList where
  hosts : List String
  ports : List UInt16
deriving DecidableEq

namespace HostList

/-- The name that messages give to a host list. -/
def sourceName : String := "host list"

/-- Reads one entry: a host, and the port behind its first colon or else the given one. -/
def readEntry (entry : List Char) (port : UInt16) : Except ParameterError (String × UInt16) :=
  let (host, inline) := Text.cutOff ':' entry
  if inline = [] then .ok (String.ofList host, port)
  else (readPort inline sourceName).map fun own => (String.ofList host, own)

/-- Reads the entries of a host list, each with the port beside it. The first bad entry decides the
error. -/
def readEntries : List (List Char) → List UInt16 → Except ParameterError HostList
  | entry :: entries, port :: ports => do
    let (host, own) ← readEntry entry port
    let rest ← readEntries entries ports
    pure ⟨host :: rest.hosts, own :: rest.ports⟩
  | _, _ => pure ⟨[], []⟩

/-- Reads a host list. Ports that the entries leave open come from the specification, or from the
environment where it is missing or empty. -/
def read (text : String) (port : Option PortSpec) (env : Environment) :
    Except ParameterError HostList := do
  let entries := text.toList.splitOn ','
  let spec ← PortSpec.orOfEnvironment port env
  let ports ← spec.forHosts entries.length
  readEntries entries ports

end HostList

end SessionPlan
