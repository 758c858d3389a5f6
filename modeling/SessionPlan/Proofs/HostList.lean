/-
Host lists and port specifications: what comes out of them has the right shape.

Two invariants carry everything that is said about addresses later. A specification that was read
from a text is never empty, since a text has at least one piece between its commas. A host list has
at least one host, and one port for each of its hosts. Only two faults can arise on the way: a text
that is no port, and a list of ports that is not as long as the hosts.

Reading a host list is described here a second time, as **one pass over its entries**: settle the
ports that the entries fall back on, put one beside each entry, read the pairs in order. In this
form the environment no longer occurs, because only the fallback may come from there.
-/
import SessionPlan.HostList
import SessionPlan.Proofs.Outcome

set_option autoImplicit false

namespace SessionPlan

/-- The faults of hosts and ports: a text that is no port, or two counts that differ, neither of
them zero. -/
inductive AddressFault : ParameterError → Prop where
  | port (value source : String) : AddressFault (.invalidPort value source)
  | count {ports hosts : Nat} (ports_pos : 0 < ports) (hosts_pos : 0 < hosts)
      (ne : ports ≠ hosts) : AddressFault (.portCountMismatch ports hosts)

/-! ## Port specifications -/

/-- The fault of a port repeats its text and its source. -/
theorem fault_of_readPort {text : List Char} {source : String} {e : ParameterError}
    (h : readPort text source = .error e) : e = .invalidPort (String.ofList text) source := by
  rw [readPort] at h
  split at h
  · cases h
  · cases h
    rfl

namespace PortSpec

theorem nonEmpty?_eq_some_iff {spec given : PortSpec} :
    given.nonEmpty? = some spec ↔ given = spec ∧ spec.isEmpty = false := by
  rw [nonEmpty?]
  cases h : given.isEmpty with
  | true =>
    simp only [if_true, reduceCtorEq, false_iff, not_and]
    rintro rfl
    simp [h]
  | false =>
    simp only [Bool.false_eq_true, if_false, Option.some.injEq]
    constructor
    · rintro rfl
      exact ⟨rfl, h⟩
    · exact fun e => e.1

/-- An optional specification, once the empty one counts as absent, names a port. -/
theorem isEmpty_of_bind_nonEmpty? {given : Option PortSpec} {spec : PortSpec}
    (h : given.bind nonEmpty? = some spec) : spec.isEmpty = false := by
  obtain ⟨s, -, hs⟩ := Option.bind_eq_some_iff.mp h
  exact (nonEmpty?_eq_some_iff.mp hs).2

/-- A specification that names a port is taken as it is, whatever the environment holds. -/
theorem orOfEnvironment_of_isEmpty {spec : PortSpec} (h : spec.isEmpty = false)
    (env : Environment) : orOfEnvironment (some spec) env = .ok spec := by
  have hs : (some spec).bind nonEmpty? = some spec := nonEmpty?_eq_some_iff.mpr ⟨rfl, h⟩
  rw [orOfEnvironment, hs]

/-- A list that was read from a text holds a port: the text has at least one piece. -/
theorem isEmpty_of_readList {text source : String} {spec : PortSpec}
    (h : readList text source = .ok spec) : spec.isEmpty = false := by
  obtain ⟨ports, hports, rfl⟩ := map_eq_ok_iff.mp h
  have hlen : ports.length = (text.toList.splitOn ',').length := length_of_mapM hports
  have hpos : 0 < (text.toList.splitOn ',').length :=
    List.length_pos_iff.mpr (List.splitOn_ne_nil ',' text.toList)
  cases ports with
  | nil => rw [List.length_nil] at hlen; omega
  | cons port ports => rfl

theorem isEmpty_of_read {text source : String} {spec : PortSpec}
    (h : read text source = .ok spec) : spec.isEmpty = false := by
  rw [read] at h
  split at h
  · exact isEmpty_of_readList h
  · obtain ⟨port, -, rfl⟩ := map_eq_ok_iff.mp h
    rfl

theorem isEmpty_of_ofEnvironment {env : Environment} {spec : PortSpec}
    (h : ofEnvironment env = .ok spec) : spec.isEmpty = false := by
  rw [ofEnvironment] at h
  split at h
  · exact isEmpty_of_read h
  · cases h
    rfl

/-- **Whatever decides on the ports names one.** -/
theorem isEmpty_of_orOfEnvironment {given : Option PortSpec} {env : Environment} {spec : PortSpec}
    (h : orOfEnvironment given env = .ok spec) : spec.isEmpty = false := by
  rw [orOfEnvironment] at h
  split at h
  next s hs =>
    cases h
    exact isEmpty_of_bind_nonEmpty? hs
  next => exact isEmpty_of_ofEnvironment h

theorem fault_of_readList {text source : String} {e : ParameterError}
    (h : readList text source = .error e) : AddressFault e := by
  obtain ⟨before, piece, after, -, -, hpiece⟩ := mapM_eq_error_iff.mp (map_eq_error_iff.mp h)
  rw [fault_of_readPort hpiece]
  exact .port _ _

theorem fault_of_orOfEnvironment {given : Option PortSpec} {env : Environment} {e : ParameterError}
    (h : orOfEnvironment given env = .error e) : AddressFault e := by
  rw [orOfEnvironment] at h
  split at h
  · cases h
  · rw [ofEnvironment] at h
    split at h
    · rw [read] at h
      split at h
      · exact fault_of_readList h
      · rw [fault_of_readPort (map_eq_error_iff.mp h)]
        exact .port _ _
    · cases h

/-- Ports and hosts do not match when both are there and their counts differ. -/
theorem fault_of_forHosts {spec : PortSpec} {hosts : Nat} {e : ParameterError}
    (h : spec.forHosts hosts = .error e) (hspec : spec.isEmpty = false) (hhosts : 0 < hosts) :
    AddressFault e := by
  cases spec with
  | single port => cases h
  | list ports =>
    rw [forHosts] at h
    split at h
    · cases h
    next hne =>
      cases h
      cases ports with
      | nil => cases hspec
      | cons port ports => exact .count (Nat.zero_lt_succ _) hhosts hne

/-- A list that is as long as the hosts is taken as it is. -/
theorem forHosts_list {ports : List UInt16} {hosts : Nat} (h : ports.length = hosts) :
    (list ports).forHosts hosts = .ok ports := by
  rw [forHosts, if_pos h]

end PortSpec

/-! ## Host lists -/

namespace HostList

/-- The host list of hosts that stand beside their ports. -/
def ofPairs (pairs : List (String × UInt16)) : HostList :=
  ⟨pairs.map Prod.fst, pairs.map Prod.snd⟩

/-- The host list of a text: the entries in order, each read with the port that `base` holds for
its position. -/
def split (text : String) (base : PortSpec) : Except ParameterError HostList := do
  let entries := text.toList.splitOn ','
  let ports ← base.forHosts entries.length
  ((entries.zip ports).mapM fun e => readEntry e.1 e.2).map ofPairs

/-- Reading entries beside ports is a pass over the pairs. -/
theorem readEntries_eq_mapM (entries : List (List Char)) (ports : List UInt16) :
    readEntries entries ports
      = ((entries.zip ports).mapM fun e => readEntry e.1 e.2).map ofPairs := by
  -- both stop at the shorter of the two lists
  induction entries generalizing ports with
  | nil => rfl
  | cons entry entries ih =>
    cases ports with
    | nil => rfl
    | cons port ports =>
      rw [readEntries, List.zip_cons_cons, List.mapM_cons, ih ports]
      dsimp only
      cases readEntry entry port with
      | error e => rfl
      | ok pair =>
        cases (entries.zip ports).mapM fun e => readEntry e.1 e.2 with
        | error e => rfl
        | ok pairs => rfl

/-- **Reading is splitting** with the ports that the specification or the environment gives. -/
theorem read_eq_split (text : String) (port : Option PortSpec) (env : Environment) :
    read text port env = PortSpec.orOfEnvironment port env >>= split text := by
  rw [read]
  refine bind_congr fun spec => ?_
  rw [split]
  exact bind_congr fun ports => readEntries_eq_mapM _ ports

/-- **The shape of a host list.** There is a host, and one port for each. -/
theorem shape_of_split {text : String} {base : PortSpec} {hosts : HostList}
    (h : split text base = .ok hosts) :
    hosts.hosts ≠ [] ∧ hosts.ports.length = hosts.hosts.length := by
  obtain ⟨ports, hports, h⟩ := bind_eq_ok_iff.mp h
  obtain ⟨pairs, hpairs, rfl⟩ := map_eq_ok_iff.mp h
  have hlen : pairs.length = ((text.toList.splitOn ',').zip ports).length := length_of_mapM hpairs
  have hzip : ((text.toList.splitOn ',').zip ports).length = (text.toList.splitOn ',').length := by
    rw [List.length_zip, PortSpec.length_of_forHosts hports, Nat.min_self]
  have hpos : 0 < (text.toList.splitOn ',').length :=
    List.length_pos_iff.mpr (List.splitOn_ne_nil ',' text.toList)
  -- as many pairs as entries, and a text has at least one
  refine ⟨fun hnil => ?_, by rw [ofPairs, List.length_map, List.length_map]⟩
  rw [ofPairs, List.map_eq_nil_iff, ← List.length_eq_zero_iff] at hnil
  omega

/-- An entry fails only through the port behind its colon. -/
theorem fault_of_readEntry {entry : List Char} {port : UInt16} {e : ParameterError}
    (h : readEntry entry port = .error e) : ∃ value, e = .invalidPort value sourceName := by
  rw [readEntry] at h
  split at h
  split at h
  · cases h
  · exact ⟨_, fault_of_readPort (map_eq_error_iff.mp h)⟩

/-- Once the ports beside the entries are settled, only a port of an entry can be at fault. -/
theorem fault_of_readEntries {entries : List (List Char)} {ports : List UInt16}
    {e : ParameterError} (h : readEntries entries ports = .error e) :
    ∃ value, e = .invalidPort value sourceName := by
  rw [readEntries_eq_mapM] at h
  obtain ⟨before, pair, after, -, -, hpair⟩ := mapM_eq_error_iff.mp (map_eq_error_iff.mp h)
  exact fault_of_readEntry hpair

theorem fault_of_split {text : String} {base : PortSpec} {e : ParameterError}
    (h : split text base = .error e) (hbase : base.isEmpty = false) : AddressFault e := by
  rcases bind_eq_error_iff.mp h with h | ⟨ports, -, h⟩
  · exact PortSpec.fault_of_forHosts h hbase
      (List.length_pos_iff.mpr (List.splitOn_ne_nil ',' text.toList))
  · rw [← readEntries_eq_mapM] at h
    obtain ⟨value, rfl⟩ := fault_of_readEntries h
    exact .port _ _

end HostList

end SessionPlan
