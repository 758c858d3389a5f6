/-
The hosts that a source names.

A source names its hosts before any port is known. The ports they fall back on are matched with
their number once; after that every host keeps its place, and the only fault that is left is a port
that stands in the text of a list. So a resolution has one target for each host that was named, in
the same order, and a port that all hosts share is never a matter of counts.
-/
import SessionPlan.Proofs.AddressRank

set_option autoImplicit false

namespace SessionPlan

/-! ## Host lists -/

namespace HostList

/-- The hosts that a text lists, without their ports. -/
def names (text : String) : List String :=
  (text.toList.splitOn ',').map fun entry => String.ofList (Text.cutOff ':' entry).1

/-- **Splitting a list**: match the ports with the hosts, then read the entries. -/
theorem split_eq_readEntries (text : String) (base : PortSpec) :
    split text base = base.forHosts (names text).length >>= fun ports =>
      readEntries (text.toList.splitOn ',') ports := by
  rw [names, List.length_map]
  apply bind_congr
  intro ports
  exact (readEntries_eq_mapM _ ports).symm

/-- The host of an entry is what stands before its first colon. -/
theorem host_of_readEntry {entry : List Char} {port : UInt16} {pair : String × UInt16}
    (h : readEntry entry port = .ok pair) :
    pair.1 = String.ofList (Text.cutOff ':' entry).1 := by
  rw [readEntry] at h
  split at h
  next host inline hcut =>
    rw [hcut]
    split at h
    · cases h
      rfl
    · obtain ⟨own, -, rfl⟩ := map_eq_ok_iff.mp h
      rfl

/-- Reading entries beside as many ports keeps each of them in its place. -/
theorem hosts_of_readEntries {entries : List (List Char)} {ports : List UInt16} {list : HostList}
    (hlen : ports.length = entries.length) (h : readEntries entries ports = .ok list) :
    list.hosts = entries.map fun entry => String.ofList (Text.cutOff ':' entry).1 := by
  -- entries and ports are gone through together
  induction entries generalizing ports list with
  | nil =>
    cases h
    rfl
  | cons entry entries ih =>
    obtain ⟨port, ports, rfl⟩ := List.exists_cons_of_length_eq_add_one hlen
    rw [readEntries] at h
    obtain ⟨pair, hpair, h⟩ := bind_eq_ok_iff.mp h
    obtain ⟨rest, hrest, h⟩ := bind_eq_ok_iff.mp h
    cases h
    rw [List.map_cons, ← ih (Nat.succ.inj hlen) hrest, ← host_of_readEntry hpair]

end HostList

/-! ## Sources -/

namespace HostSource

/-- The hosts that a source names. -/
def names (platform : Platform) : HostSource → List String
  | arguments hosts => hosts
  | authority text | query text | environment text => HostList.names text
  | .platform => defaultHosts platform

/-- The addresses of a source whose hosts have the given ports to fall back on, one for each. -/
def place (platform : Platform) (ports : List UInt16) : HostSource → Except ParameterError Addresses
  | arguments hosts => .ok ⟨hosts, ports, hosts⟩
  | authority text | query text | environment text =>
    (HostList.readEntries (text.toList.splitOn ',') ports).map Addresses.ofHostList
  | .platform => .ok ⟨defaultHosts platform, ports, [localhost]⟩

variable {source : HostSource} {platform : Platform} {base : PortSpec} {ports : List UInt16}
  {addresses : Addresses} {e : ParameterError}

/-- **Ports meet hosts once.** Whatever the source, its addresses are settled by matching the base
port with the number of its hosts. -/
theorem settle_eq_place (source : HostSource) (platform : Platform) (base : PortSpec) :
    source.settle platform base = base.forHosts (source.names platform).length >>= fun ports =>
      source.place platform ports := by
  cases source with
  | arguments hosts => exact map_eq_bind _ _
  | platform => exact map_eq_bind _ _
  | authority text | query text | environment text =>
    show (HostList.split text base).map _ = _
    rw [HostList.split_eq_readEntries, map_of_bind]
    rfl

/-- Two specifications that come to the same ports settle a source alike. -/
theorem settle_congr {base' : PortSpec}
    (h : base.forHosts (source.names platform).length
      = base'.forHosts (source.names platform).length) :
    source.settle platform base = source.settle platform base' := by
  rw [settle_eq_place, settle_eq_place, h]

/-- The hosts of a source are those that it names. -/
theorem hosts_of_place (hlen : ports.length = (source.names platform).length)
    (h : source.place platform ports = .ok addresses) :
    addresses.hosts = source.names platform := by
  cases source with
  | arguments hosts =>
    cases h
    rfl
  | platform =>
    cases h
    rfl
  | authority text | query text | environment text =>
    obtain ⟨list, hlist, rfl⟩ := map_eq_ok_iff.mp h
    rw [names, HostList.names, List.length_map] at hlen
    exact HostList.hosts_of_readEntries hlen hlist

/-- Stored credentials are looked up under the hosts themselves, or under `localhost`. -/
theorem authHosts_of_place (h : source.place platform ports = .ok addresses) :
    addresses.authHosts = addresses.hosts ∨ addresses.authHosts = [localhost] := by
  cases source with
  | arguments hosts =>
    cases h
    exact Or.inl rfl
  | platform =>
    cases h
    exact Or.inr rfl
  | authority text | query text | environment text =>
    obtain ⟨list, -, rfl⟩ := map_eq_ok_iff.mp h
    exact Or.inl rfl

/-- Past the counts only a port in the text of a list can be at fault. -/
theorem fault_of_place (h : source.place platform ports = .error e) :
    ∃ value, e = .invalidPort value HostList.sourceName := by
  cases source with
  | arguments hosts => cases h
  | platform => cases h
  | authority text | query text | environment text =>
    exact HostList.fault_of_readEntries (map_eq_error_iff.mp h)

/-- The ports of the arguments are the base port of every source. -/
theorem basePort_of_arguments {args : Arguments} {dsn : Dsn} {env : Environment}
    (h : args.port.bind PortSpec.nonEmpty? = some base) (source : HostSource) :
    source.basePort args dsn env = .ok base := by
  rw [basePort, h]
  rfl

end HostSource

/-! ## Addresses -/

namespace Addresses

variable {args : Arguments} {dsn : Dsn} {env : Environment} {addresses : Addresses}

/-- Addresses are those of their source, once the base port is known. -/
theorem resolve_of_basePort {base : PortSpec}
    (h : (HostSource.of args dsn env).basePort args dsn env = .ok base) :
    resolve args dsn env = (HostSource.of args dsn env).settle env.platform base := by
  rw [resolve_eq_byRank, byRank, h, ok_bind]

/-- What stands behind settled addresses: as many ports as the source names hosts. -/
theorem place_of_resolve (h : resolve args dsn env = .ok addresses) :
    ∃ ports : List UInt16, ports.length = ((HostSource.of args dsn env).names env.platform).length ∧
      (HostSource.of args dsn env).place env.platform ports = .ok addresses := by
  rw [resolve_eq_byRank] at h
  obtain ⟨base, -, h⟩ := bind_eq_ok_iff.mp h
  rw [HostSource.settle_eq_place] at h
  obtain ⟨ports, hports, h⟩ := bind_eq_ok_iff.mp h
  exact ⟨ports, PortSpec.length_of_forHosts hports, h⟩

theorem hosts_of_resolve (h : resolve args dsn env = .ok addresses) :
    addresses.hosts = (HostSource.of args dsn env).names env.platform := by
  obtain ⟨ports, hlen, hplace⟩ := place_of_resolve h
  exact HostSource.hosts_of_place hlen hplace

theorem authHosts_ne_nil_of_resolve (h : resolve args dsn env = .ok addresses) :
    addresses.authHosts ≠ [] := by
  obtain ⟨ports, -, hplace⟩ := place_of_resolve h
  rcases HostSource.authHosts_of_place hplace with hhosts | hlocal
  · rw [hhosts]
    exact (shape_of_resolve h).1
  · rw [hlocal]
    exact List.cons_ne_nil _ _

/-- A port that all hosts share is never counted: where the arguments give one, only a port in the
text of a host list can be at fault. -/
theorem fault_of_resolve_of_single {port : UInt16} {e : ParameterError}
    (hport : args.port = some (.single port)) (h : resolve args dsn env = .error e) :
    ∃ value, e = .invalidPort value HostList.sourceName := by
  have hspec : args.port.bind PortSpec.nonEmpty? = some (.single port) := by
    rw [hport]
    rfl
  rw [resolve_of_basePort (HostSource.basePort_of_arguments hspec _), HostSource.settle_eq_place,
    PortSpec.forHosts, ok_bind] at h
  exact HostSource.fault_of_place h

end Addresses

/-! ## Targets -/

namespace Resolution

variable {args : Arguments} {env : Environment}

/-- There are as many targets as hosts: the ports that are paired with them are as many. -/
theorem length_targetsOf {dsn : Dsn} {addresses : Addresses}
    (h : Addresses.resolve args dsn env = .ok addresses) :
    (targetsOf addresses).length = addresses.hosts.length := by
  rw [targetsOf, List.length_map, List.length_zip, (Addresses.shape_of_resolve h).2, Nat.min_self]

theorem resolve_ne_noAddresses (args : Arguments) (env : Environment) :
    SessionPlan.resolve args env ≠ .error .noAddresses := by
  intro h
  rcases stage_of_error h with h | ⟨dsn, -, h⟩ | h | h
  · rcases fault_of_readDsn h with ⟨_, h⟩ | ⟨_, h⟩ | ⟨_, h⟩ <;> cases h
  · cases Addresses.fault_of_resolve h
  · cases h
  · cases h

/-- Ports that do not match the hosts are a fault of the addresses. -/
theorem addresses_of_portCountMismatch {ports hosts : Nat}
    (h : SessionPlan.resolve args env = .error (.portCountMismatch ports hosts)) :
    ∃ dsn, Addresses.resolve args dsn env = .error (.portCountMismatch ports hosts) := by
  rcases stage_of_error h with h | ⟨dsn, -, h⟩ | h | h
  · rcases fault_of_readDsn h with ⟨_, h⟩ | ⟨_, h⟩ | ⟨_, h⟩ <;> cases h
  · exact ⟨dsn, h⟩
  · cases h
  · cases h

end Resolution

/-- **One target for each host.** A resolution never comes out without an address. Where it
succeeds, its hosts are those that their source names; there is one port for each, so that pairing
them drops nothing, and one target for each, at least one in all; and there is a host under which
credentials are looked up. Where it fails because ports and hosts do not match, neither count is
zero and the counts differ. A port of the arguments that all hosts share never leads there. -/
theorem one_target_per_host (args : Arguments) (env : Environment) :
    resolve args env ≠ .error .noAddresses ∧
    (∀ r, resolve args env = .ok r → ∃ dsn addresses,
      Resolution.readDsn args = .ok dsn ∧ Addresses.resolve args dsn env = .ok addresses ∧
      addresses.hosts = (HostSource.of args dsn env).names env.platform ∧
      addresses.ports.length = addresses.hosts.length ∧
      r.targets = (addresses.hosts.zip addresses.ports).map (fun a => Target.ofHost a.1 a.2) ∧
      r.targets.length = addresses.hosts.length ∧ r.targets ≠ [] ∧ r.authHosts ≠ []) ∧
    (∀ ports hosts, resolve args env = .error (.portCountMismatch ports hosts) →
      0 < ports ∧ 0 < hosts ∧ ports ≠ hosts) ∧
    ∀ port, args.port = some (.single port) →
      ∀ ports hosts, resolve args env ≠ .error (.portCountMismatch ports hosts) := by
  refine ⟨Resolution.resolve_ne_noAddresses args env, ?_, ?_, ?_⟩
  · intro r h
    obtain ⟨dsn, addresses, credentials, hdsn, haddresses, -, rfl⟩ :=
      Resolution.stages_of_resolve h
    exact ⟨dsn, addresses, hdsn, haddresses, Addresses.hosts_of_resolve haddresses,
      (Addresses.shape_of_resolve haddresses).2, rfl, Resolution.length_targetsOf haddresses,
      Resolution.targetsOf_ne_nil haddresses, Addresses.authHosts_ne_nil_of_resolve haddresses⟩
  · intro ports hosts h
    obtain ⟨dsn, h⟩ := Resolution.addresses_of_portCountMismatch h
    cases Addresses.fault_of_resolve h with
    | count ports_pos hosts_pos ne => exact ⟨ports_pos, hosts_pos, ne⟩
  · intro port hport ports hosts h
    obtain ⟨dsn, h⟩ := Resolution.addresses_of_portCountMismatch h
    obtain ⟨value, h⟩ := Addresses.fault_of_resolve_of_single hport h
    cases h

end SessionPlan
