/-
Which hosts a client tries, and on which ports.

A **draft** holds what is settled so far. It starts with the arguments, and each further source is
offered to it in order of rank; an offer is read only where the draft is still open, so that a
malformed text of a source that is not needed does no harm. A host list settles the ports as well,
since each of its entries has one.
-/
import SessionPlan.Arguments
import SessionPlan.Dsn

set_option autoImplicit false

namespace SessionPlan

/-! ## Defaults -/

/-- The host where nothing else names one. -/
def localhost : String := "localhost"

/-- The directories in which a server may have put its socket. -/
def socketDirectories : List String := ["/run/edgedb", "/var/run/edgedb", "/tmp", "/private/tmp"]

/-- The hosts that are tried where none is named. -/
def defaultHosts : Platform → List String
  | .windows => [localhost]
  | .unix => socketDirectories ++ [localhost]

/-! ## Drafts -/

/-- Hosts and ports as far as they are settled. -/
structure AddressDraft where
  hosts : Option (List String)
  port : Option PortSpec

namespace AddressDraft

/-- What the arguments settle. -/
def ofArguments (args : Arguments) : AddressDraft :=
  ⟨(args.host.bind HostSpec.nonEmpty?).map HostSpec.hosts, args.port.bind PortSpec.nonEmpty?⟩

/-- Offers a host list. -/
def offerHosts (draft : AddressDraft) (text : Option String) (env : Environment) :
    Except ParameterError AddressDraft :=
  match draft.hosts, text with
  | none, some text =>
    (HostList.read text draft.port env).map fun list => ⟨some list.hosts, some (.list list.ports)⟩
  | _, _ => .ok draft

/-- Offers the port text of a query, which is read as a list even if it names one port. -/
def offerPort (draft : AddressDraft) (text : Option String) : Except ParameterError AddressDraft :=
  match draft.port, text with
  | none, some text =>
    (PortSpec.readList text "DSN query").map fun spec => { draft with port := some spec }
  | _, _ => .ok draft

/-- The port that the hosts fall back on: that of the draft, or that of the environment where the
draft has none. -/
def settlePort (draft : AddressDraft) (env : Environment) : Except ParameterError PortSpec :=
  match draft.port with
  | some spec => .ok spec
  | none => PortSpec.ofEnvironment env

end AddressDraft

/-! ## Settled addresses -/

/-- Hosts with a port for each, and the hosts under which stored credentials are looked up. -/
structure Addresses where
  hosts : List String
  ports : List UInt16
  authHosts : List String
deriving DecidableEq

namespace Addresses

/-- Settles what a draft leaves open: the hosts of the platform, under the one name `localhost`, and
the port of the environment. -/
def ofDraft (draft : AddressDraft) (env : Environment) : Except ParameterError Addresses := do
  let hosts := draft.hosts.getD (defaultHosts env.platform)
  let authHosts := draft.hosts.getD [localhost]
  let spec ← draft.settlePort env
  let ports ← spec.forHosts hosts.length
  pure ⟨hosts, ports, authHosts⟩

/-- Settles hosts and ports. The sources, in order of rank: the arguments, the authority of the
connection string, the port and the host list of its query, the environment, the defaults. -/
def resolve (args : Arguments) (dsn : Dsn) (env : Environment) :
    Except ParameterError Addresses := do
  let draft ← (AddressDraft.ofArguments args).offerHosts dsn.hostList env
  let draft ← draft.offerPort (dsn.query.get? "port")
  let draft ← draft.offerHosts (dsn.query.get? "host") env
  let draft ← draft.offerHosts (env.nonEmpty? Environment.hostVariable) env
  ofDraft draft env

end Addresses

end SessionPlan
