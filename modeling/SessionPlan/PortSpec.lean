/-
Port specifications.

A specification is one port shared by all hosts, or a list with one port for each host. A port text
is white space, an optional plus sign, decimal digits and white space; the number is at most 65535,
whatever the count of leading zeros.
-/
import SessionPlan.Environment
import SessionPlan.ParameterError
import SessionPlan.Text.Blank

set_option autoImplicit false

namespace SessionPlan

/-! ## Single ports -/

/-- The port number that a text without white space spells. -/
def portOfDigits? : List Char → Option UInt16
  | '+' :: r => portNumber? r
  | r => portNumber? r
where
  /-- The port number that unsigned decimal digits spell. -/
  portNumber? (digits : List Char) : Option UInt16 :=
    if digits ≠ [] ∧ digits.all Char.isDigit ∧ Nat.ofDigitChars 10 digits 0 ≤ 65535 then
      some (UInt16.ofNat (Nat.ofDigitChars 10 digits 0))
    else none

/-- Reads one port; the error repeats the text as it was given. -/
def readPort (text : List Char) (source : String) : Except ParameterError UInt16 :=
  match portOfDigits? (Text.trim text) with
  | some port => .ok port
  | none => .error (.invalidPort (String.ofList text) source)

/-! ## Specifications -/

/-- The ports of a list of hosts. -/
inductive PortSpec where
  /-- One port shared by all hosts. -/
  | single (port : UInt16)
  /-- One port for each host, in the order of the hosts. -/
  | list (ports : List UInt16)
deriving DecidableEq

namespace PortSpec

/-- The port where nothing names one. -/
def fallback : PortSpec := .single 5656

/-- Whether a specification names no port at all; it then counts as not given. -/
def isEmpty : PortSpec → Bool
  | .single _ => false
  | .list ports => ports.isEmpty

/-- A specification unless it is empty. -/
def nonEmpty? (spec : PortSpec) : Option PortSpec := if spec.isEmpty then none else some spec

/-- Reads comma-separated ports as a list, also where there is only one. -/
def readList (text source : String) : Except ParameterError PortSpec :=
  (text.toList.splitOn ',').mapM (readPort · source) |>.map .list

/-- Reads a single port, or comma-separated ports as a list. -/
def read (text source : String) : Except ParameterError PortSpec :=
  if ',' ∈ text.toList then readList text source
  else (readPort text.toList source).map .single

/-- The specification that holds where none is given: that of the environment, or the fallback. -/
def ofEnvironment (env : Environment) : Except ParameterError PortSpec :=
  match env.nonEmpty? Environment.portVariable with
  | some text => read text Environment.portVariable
  | none => .ok fallback

/-- The given specification, or that of the environment where it is missing or empty. -/
def orOfEnvironment (given : Option PortSpec) (env : Environment) :
    Except ParameterError PortSpec :=
  match given.bind nonEmpty? with
  | some spec => .ok spec
  | none => ofEnvironment env

/-- The ports of `hosts` hosts: a single port is repeated, a list must be as long as the hosts. -/
def forHosts (spec : PortSpec) (hosts : Nat) : Except ParameterError (List UInt16) :=
  match spec with
  | .single port => .ok (List.replicate hosts port)
  | .list ports =>
    if ports.length = hosts then .ok ports
    else .error (.portCountMismatch ports.length hosts)

/-- **One port per host.** Whatever the specification, as many ports come out as there are hosts. -/
theorem length_of_forHosts {spec : PortSpec} {hosts : Nat} {ports : List UInt16}
    (h : spec.forHosts hosts = .ok ports) : ports.length = hosts := by
  cases spec with
  | single port =>
    cases h
    exact List.length_replicate
  | list given =>
    rw [forHosts] at h
    split at h
    next len => cases h; exact len
    next => cases h

end PortSpec

end SessionPlan
