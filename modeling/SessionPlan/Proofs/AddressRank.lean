/-
Which source settles the addresses.

The resolver offers its sources to a draft one after the other, and hosts and ports are settled on
the way. The same is said here **by rank**: one source names the hosts, one source names the port
that they fall back on, and the two meet once. A source of ports is looked at only when it can
count: the port of a query does not count where the authority of the connection string names the
hosts, since the authority has settled the ports before the query is read.

The main statement is that both descriptions agree on every input, on the addresses and on the first
fault alike, and that a resolution fails with such a fault exactly when the addresses do.
-/
import SessionPlan.Proofs.HostList
import SessionPlan.Proofs.Query
import SessionPlan.Resolution

set_option autoImplicit false

namespace SessionPlan

/-! ## Sources in order of rank -/

section Rank

variable {α : Type}

/-- The value of the first source that has one, the sources in order of rank. -/
def firstPresent (sources : List (Option α)) : Option α := sources.findSome? id

@[simp] theorem firstPresent_nil : firstPresent ([] : List (Option α)) = none := rfl

/-- One source in front of others decides unless it is absent. -/
theorem firstPresent_cons (source : Option α) (sources : List (Option α)) :
    firstPresent (source :: sources) = source.or (firstPresent sources) := by
  cases source with
  | none => rfl
  | some a => rfl

/-- No source decides exactly when every one is absent. -/
theorem firstPresent_eq_none_iff {sources : List (Option α)} :
    firstPresent sources = none ↔ ∀ source ∈ sources, source = none := by
  rw [firstPresent, List.findSome?_eq_none_iff]
  rfl

/-- The value that decides is that of a source. -/
theorem mem_of_firstPresent {sources : List (Option α)} {a : α}
    (h : firstPresent sources = some a) : some a ∈ sources := by
  obtain ⟨source, hsource, rfl⟩ := List.exists_of_findSome?_eq_some h
  exact hsource

end Rank

/-! ## The source of the hosts -/

/-- Where the hosts come from. -/
inductive HostSource where
  /-- The arguments, which name hosts one by one. -/
  | arguments (hosts : List String)
  /-- The host list in the authority of the connection string. -/
  | authority (text : String)
  /-- The host list in its query. -/
  | query (text : String)
  /-- The host list of the environment. -/
  | environment (text : String)
  /-- Nothing but the platform. -/
  | platform
deriving DecidableEq

namespace HostSource

/-- The source that names the hosts: the first one present. -/
def of (args : Arguments) (dsn : Dsn) (env : Environment) : HostSource :=
  (firstPresent [
    (args.host.bind HostSpec.nonEmpty?).map fun spec => arguments spec.hosts,
    dsn.hostList.map authority,
    (dsn.query.get? "host").map query,
    (env.nonEmpty? "EDGEDB_HOST").map environment]).getD platform

/-- The port text of a query as far as it counts: not beside hosts in the authority. -/
def queryPort? (dsn : Dsn) : HostSource → Option String
  | authority _ => none
  | _ => dsn.query.get? "port"

/-- The ports that the hosts fall back on: those of the first source present, which fails when its
text is malformed. -/
def basePort (args : Arguments) (dsn : Dsn) (env : Environment) (source : HostSource) :
    Except ParameterError PortSpec :=
  (firstPresent [
    (args.port.bind PortSpec.nonEmpty?).map .ok,
    (source.queryPort? dsn).map fun text => PortSpec.readList text "DSN query",
    (env.nonEmpty? "EDGEDB_PORT").map fun text => PortSpec.read text "EDGEDB_PORT"]).getD
    (.ok (.single 5656))

/-- The addresses of hosts from a source. A text is split, and its entries may carry ports of their
own; hosts that were named one by one all take the ports they fall back on. -/
def settle (platform : Platform) (base : PortSpec) : HostSource → Except ParameterError Addresses
  | arguments hosts => (base.forHosts hosts.length).map fun ports => ⟨hosts, ports, hosts⟩
  | authority text | query text | environment text =>
    (HostList.split text base).map fun list => ⟨list.hosts, list.ports, list.hosts⟩
  | .platform =>
    let hosts := defaultHosts platform
    (base.forHosts hosts.length).map fun ports => ⟨hosts, ports, [localhost]⟩

end HostSource

namespace Addresses

/-- The addresses by rank of their sources. -/
def byRank (args : Arguments) (dsn : Dsn) (env : Environment) : Except ParameterError Addresses :=
  let source := HostSource.of args dsn env
  source.basePort args dsn env >>= fun base => source.settle env.platform base

end Addresses

/-! ## Offers to a draft -/

namespace AddressDraft

variable {hosts : List String} {port : Option PortSpec} {spec : PortSpec}

/-- The draft after a host list was read: it leaves nothing open. -/
def ofHostList (list : HostList) : AddressDraft := ⟨some list.hosts, some (.list list.ports)⟩

@[simp] theorem offerHosts_none (draft : AddressDraft) (env : Environment) :
    draft.offerHosts none env = .ok draft := by
  rw [offerHosts]
  intro text _ h
  cases h

/-- Settled hosts stay, whatever is offered. -/
@[simp] theorem offerHosts_of_settled (text : Option String) (env : Environment) :
    offerHosts ⟨some hosts, port⟩ text env = .ok ⟨some hosts, port⟩ := by
  rw [offerHosts]
  intro text h
  cases h

@[simp] theorem offerHosts_of_open (text : String) (env : Environment) :
    offerHosts ⟨none, port⟩ (some text) env
      = (PortSpec.orOfEnvironment port env >>= HostList.split text).map ofHostList := by
  rw [← HostList.read_eq_split]
  rfl

/-- The port after the offer of a query port: a port that is settled stays. -/
def queriedPort : Option PortSpec → Option String → Except ParameterError (Option PortSpec)
  | none, some text => (PortSpec.readList text "DSN query").map some
  | port, _ => .ok port

@[simp] theorem queriedPort_none (port : Option PortSpec) : queriedPort port none = .ok port := by
  cases port with
  | none => rfl
  | some spec => rfl

theorem fault_of_queriedPort {text : Option String} {e : ParameterError}
    (h : queriedPort port text = .error e) : AddressFault e := by
  cases port with
  | some spec => cases h
  | none =>
    cases text with
    | none => cases h
    | some text => exact PortSpec.fault_of_readList (map_eq_error_iff.mp h)

/-- No offer leaves a draft with ports that are none: an empty list counts as not given, and a text
names at least one port. -/
theorem isEmpty_of_queriedPort {text : Option String} {port' : Option PortSpec}
    (hport : ∀ spec ∈ port, spec.isEmpty = false) (h : queriedPort port text = .ok port') :
    ∀ spec ∈ port', spec.isEmpty = false := by
  cases port with
  | some spec =>
    cases h
    exact hport
  | none =>
    cases text with
    | none =>
      cases h
      exact hport
    | some text =>
      obtain ⟨spec, hspec, rfl⟩ := map_eq_ok_iff.mp h
      rintro _ ⟨⟩
      exact PortSpec.isEmpty_of_readList hspec

/-- So the filter for empty lists that a host list applies to its port makes no difference to the
port of a draft. -/
theorem settlePort_eq {draft : AddressDraft} (hport : ∀ spec ∈ draft.port, spec.isEmpty = false)
    (env : Environment) : draft.settlePort env = PortSpec.orOfEnvironment draft.port env := by
  obtain ⟨hosts, port⟩ := draft
  cases port with
  | none => rfl
  | some spec => exact (PortSpec.orOfEnvironment_of_isEmpty (hport spec rfl) env).symm

/-- The offer of a query port leaves the hosts alone. -/
theorem offerPort_eq (draft : AddressDraft) (text : Option String) :
    draft.offerPort text
      = (queriedPort draft.port text).map fun port => ⟨draft.hosts, port⟩ := by
  obtain ⟨hosts, port⟩ := draft
  cases port with
  | some spec => rfl
  | none =>
    cases text with
    | none => rfl
    | some text =>
      show (PortSpec.readList text "DSN query").map _
        = ((PortSpec.readList text "DSN query").map some).map _
      cases PortSpec.readList text "DSN query" with
      | error e => rfl
      | ok spec => rfl

end AddressDraft

namespace Addresses

/-! ## The two descriptions agree -/

variable {args : Arguments} {dsn : Dsn} {env : Environment}

/-- The addresses of a host list. -/
def ofHostList (list : HostList) : Addresses := ⟨list.hosts, list.ports, list.hosts⟩

/-- **A host list leaves nothing to settle.** Its ports are as many as its hosts, so they are
matched with them once more without effect. -/
theorem ofDraft_ofHostList {list : HostList} (ports : list.ports.length = list.hosts.length)
    (env : Environment) :
    ofDraft (AddressDraft.ofHostList list) env = .ok (ofHostList list) := by
  rw [ofDraft, AddressDraft.ofHostList, AddressDraft.settlePort, ok_bind]
  dsimp only [Option.getD_some]
  rw [PortSpec.forHosts_list ports]
  rfl

/-- After a host list was split, the sources of lower rank are not read, as long as they leave such
a draft alone. -/
theorem settled_of_split (text : String) (spec : Except ParameterError PortSpec) (env : Environment)
    {rest : AddressDraft → Except ParameterError Addresses}
    (hrest : ∀ list : HostList, rest (AddressDraft.ofHostList list)
      = ofDraft (AddressDraft.ofHostList list) env) :
    ((spec >>= HostList.split text).map AddressDraft.ofHostList >>= rest)
      = spec >>= fun base => (HostList.split text base).map ofHostList := by
  cases spec with
  | error e => rfl
  | ok base =>
    rw [ok_bind, ok_bind]
    cases h : HostList.split text base with
    | error e => rfl
    | ok list =>
      obtain ⟨-, ports⟩ := HostList.shape_of_split h
      rw [map_ok, ok_bind, hrest, ofDraft_ofHostList ports, map_ok]

/-- The base port is that of the draft once the query port was offered, with the environment where
the draft is still open. -/
theorem basePort_eq (source : HostSource) :
    source.basePort args dsn env
      = AddressDraft.queriedPort (args.port.bind PortSpec.nonEmpty?) (source.queryPort? dsn)
          >>= fun port => PortSpec.orOfEnvironment port env := by
  rw [HostSource.basePort]
  cases hport : args.port.bind PortSpec.nonEmpty? with
  | some spec =>
    -- ports of the arguments stay, whatever else there is
    have hspec := PortSpec.isEmpty_of_bind_nonEmpty? hport
    exact (PortSpec.orOfEnvironment_of_isEmpty hspec env).symm
  | none =>
    cases source.queryPort? dsn with
    | some text =>
      show PortSpec.readList text "DSN query" = (PortSpec.readList text "DSN query").map some >>= _
      cases hspec : PortSpec.readList text "DSN query" with
      | error e => rfl
      | ok spec =>
        -- a port text of the query names a port, so the environment is not asked
        have hne := PortSpec.isEmpty_of_readList hspec
        exact (PortSpec.orOfEnvironment_of_isEmpty hne env).symm
    | none =>
      show _ = PortSpec.ofEnvironment env
      rw [PortSpec.ofEnvironment, Environment.portVariable]
      cases env.nonEmpty? "EDGEDB_PORT" with
      | none => rfl
      | some text => rfl

/-- **Offers and ranks agree.** Settling the addresses offer by offer is settling them by the rank
of their sources. -/
theorem resolve_eq_byRank (args : Arguments) (dsn : Dsn) (env : Environment) :
    resolve args dsn env = byRank args dsn env := by
  rw [resolve, byRank, basePort_eq, AddressDraft.ofArguments, HostSource.of,
    Environment.hostVariable]
  simp only [AddressDraft.offerPort_eq]
  have hport : ∀ spec ∈ args.port.bind PortSpec.nonEmpty?, spec.isEmpty = false := fun _ h =>
    PortSpec.isEmpty_of_bind_nonEmpty? h
  generalize args.port.bind PortSpec.nonEmpty? = port at hport ⊢
  cases args.host.bind HostSpec.nonEmpty? with
  | some spec =>
    -- the arguments settle the hosts, so every offer of hosts leaves the draft as it is
    rw [Option.map_some, AddressDraft.offerHosts_of_settled, ok_bind]
    show _ = (AddressDraft.queriedPort port (dsn.query.get? "port") >>= _) >>= _
    cases hqueried : AddressDraft.queriedPort port (dsn.query.get? "port") with
    | error e => rfl
    | ok port' =>
      have hport' := AddressDraft.isEmpty_of_queriedPort hport hqueried
      rw [map_ok, ok_bind, AddressDraft.offerHosts_of_settled, ok_bind,
        AddressDraft.offerHosts_of_settled, ok_bind, ok_bind, ofDraft,
        AddressDraft.settlePort_eq hport']
      rfl
  | none =>
    cases dsn.hostList with
    | some text =>
      -- the authority settles the ports as well, so the port of the query is not read
      rw [Option.map_none, AddressDraft.offerHosts_of_open]
      show _ = (AddressDraft.queriedPort port none >>= _) >>= _
      rw [AddressDraft.queriedPort_none, ok_bind]
      refine settled_of_split text (PortSpec.orOfEnvironment port env) env fun list => ?_
      simp [AddressDraft.ofHostList, AddressDraft.queriedPort]
    | none =>
      -- no other source of hosts keeps the port of the query from counting
      have hcounts : (HostSource.queryPort? dsn ((firstPresent [none, none,
          (dsn.query.get? "host").map HostSource.query,
          (env.nonEmpty? "EDGEDB_HOST").map HostSource.environment]).getD HostSource.platform))
            = dsn.query.get? "port" := by
        cases dsn.query.get? "host" with
        | some text => rfl
        | none =>
          cases env.nonEmpty? "EDGEDB_HOST" with
          | some text => rfl
          | none => rfl
      simp only [Option.map_none]
      rw [hcounts, AddressDraft.offerHosts_none, ok_bind]
      cases hqueried : AddressDraft.queriedPort port (dsn.query.get? "port") with
      | error e => rfl
      | ok port' =>
        have hport' := AddressDraft.isEmpty_of_queriedPort hport hqueried
        rw [map_ok, ok_bind, ok_bind]
        cases dsn.query.get? "host" with
        | some text =>
          -- the host list of the query takes the port of the query as its fallback
          rw [AddressDraft.offerHosts_of_open]
          refine settled_of_split text (PortSpec.orOfEnvironment port' env) env fun list => ?_
          simp [AddressDraft.ofHostList]
        | none =>
          rw [AddressDraft.offerHosts_none, ok_bind]
          cases env.nonEmpty? "EDGEDB_HOST" with
          | some text =>
            rw [AddressDraft.offerHosts_of_open]
            exact settled_of_split text (PortSpec.orOfEnvironment port' env) env fun list => rfl
          | none =>
            rw [AddressDraft.offerHosts_none, ok_bind, ofDraft, AddressDraft.settlePort_eq hport']
            rfl

/-! ## Shape and faults -/

/-- A specification that is not empty names a host. -/
theorem hosts_ne_nil_of_nonEmpty? {given spec : HostSpec} (h : given.nonEmpty? = some spec) :
    spec.hosts ≠ [] := by
  rw [HostSpec.nonEmpty?] at h
  split at h
  next => cases h
  next hne =>
    cases h
    intro hnil
    apply hne
    cases given with
    | single host => cases hnil
    | list hosts => exact List.isEmpty_iff.mpr hnil

/-- Hosts of the arguments, once the empty specification counts as absent, are some. -/
theorem hosts_ne_nil_of_source {hosts : List String}
    (h : HostSource.of args dsn env = .arguments hosts) : hosts ≠ [] := by
  rw [HostSource.of, Option.getD_eq_iff] at h
  rcases h with h | ⟨-, h⟩
  · -- no source but the first makes hosts of the arguments
    have hmem := mem_of_firstPresent h
    simp only [List.mem_cons, List.not_mem_nil, or_false, eq_comm (a := some _),
      Option.map_eq_some_iff, reduceCtorEq, and_false, exists_false] at hmem
    obtain ⟨spec, hspec, hhosts⟩ := hmem
    obtain ⟨given, -, hgiven⟩ := Option.bind_eq_some_iff.mp hspec
    rw [← HostSource.arguments.inj hhosts]
    exact hosts_ne_nil_of_nonEmpty? hgiven
  · cases h

theorem defaultHosts_ne_nil (platform : Platform) : defaultHosts platform ≠ [] := by
  cases platform with
  | windows => exact List.cons_ne_nil _ _
  | unix => exact List.cons_ne_nil _ _

theorem isEmpty_of_basePort {source : HostSource} {base : PortSpec}
    (h : source.basePort args dsn env = .ok base) : base.isEmpty = false := by
  rw [basePort_eq] at h
  obtain ⟨port, -, h⟩ := bind_eq_ok_iff.mp h
  exact PortSpec.isEmpty_of_orOfEnvironment h

/-- Settled addresses have a host and one port for each, if hosts that were named one by one are
some. -/
theorem shape_of_settle {source : HostSource} {base : PortSpec} {platform : Platform}
    {addresses : Addresses} (hhosts : ∀ hosts, source = .arguments hosts → hosts ≠ [])
    (h : source.settle platform base = .ok addresses) :
    addresses.hosts ≠ [] ∧ addresses.ports.length = addresses.hosts.length := by
  cases source with
  | arguments hosts =>
    obtain ⟨ports, hports, rfl⟩ := map_eq_ok_iff.mp h
    exact ⟨hhosts hosts rfl, PortSpec.length_of_forHosts hports⟩
  | platform =>
    obtain ⟨ports, hports, rfl⟩ := map_eq_ok_iff.mp h
    exact ⟨defaultHosts_ne_nil platform, PortSpec.length_of_forHosts hports⟩
  | authority text | query text | environment text =>
    obtain ⟨list, hlist, rfl⟩ := map_eq_ok_iff.mp h
    exact HostList.shape_of_split hlist

theorem fault_of_settle {source : HostSource} {base : PortSpec} {platform : Platform}
    {e : ParameterError} (hhosts : ∀ hosts, source = .arguments hosts → hosts ≠ [])
    (hbase : base.isEmpty = false) (h : source.settle platform base = .error e) :
    AddressFault e := by
  cases source with
  | arguments hosts =>
    have hpos := List.length_pos_iff.mpr (hhosts hosts rfl)
    exact PortSpec.fault_of_forHosts (map_eq_error_iff.mp h) hbase hpos
  | platform =>
    have hpos := List.length_pos_iff.mpr (defaultHosts_ne_nil platform)
    exact PortSpec.fault_of_forHosts (map_eq_error_iff.mp h) hbase hpos
  | authority text | query text | environment text =>
    -- a text has at least one entry, so here nothing is asked of the hosts
    exact HostList.fault_of_split (map_eq_error_iff.mp h) hbase

/-- **The shape of addresses.** There is a host, and one port for each. -/
theorem shape_of_resolve {addresses : Addresses} (h : resolve args dsn env = .ok addresses) :
    addresses.hosts ≠ [] ∧ addresses.ports.length = addresses.hosts.length := by
  rw [resolve_eq_byRank] at h
  obtain ⟨base, -, h⟩ := bind_eq_ok_iff.mp h
  exact shape_of_settle (fun hosts => hosts_ne_nil_of_source) h

/-- **The faults of addresses** are those of hosts and ports. -/
theorem fault_of_resolve {e : ParameterError} (h : resolve args dsn env = .error e) :
    AddressFault e := by
  rw [resolve_eq_byRank] at h
  rcases bind_eq_error_iff.mp h with h | ⟨base, hbase, h⟩
  · rw [basePort_eq] at h
    rcases bind_eq_error_iff.mp h with h | ⟨port, -, h⟩
    · exact AddressDraft.fault_of_queriedPort h
    · exact PortSpec.fault_of_orOfEnvironment h
  · exact fault_of_settle (fun hosts => hosts_ne_nil_of_source) (isEmpty_of_basePort hbase) h

end Addresses

/-! ## Resolutions -/

namespace Resolution

variable {args : Arguments} {dsn : Dsn} {env : Environment} {e : ParameterError}

/-- Settled addresses have a target. -/
theorem targetsOf_ne_nil {addresses : Addresses}
    (h : Addresses.resolve args dsn env = .ok addresses) : targetsOf addresses ≠ [] := by
  obtain ⟨hhosts, hports⟩ := Addresses.shape_of_resolve h
  rw [targetsOf, ne_eq, List.map_eq_nil_iff, ← List.length_eq_zero_iff, List.length_zip, hports,
    Nat.min_self, List.length_eq_zero_iff]
  exact hhosts

/-- So a resolution is put together without a fault. -/
theorem assemble_eq {addresses : Addresses} (h : Addresses.resolve args dsn env = .ok addresses)
    (credentials : Credentials) :
    assemble args dsn addresses credentials
      = .ok ⟨targetsOf addresses, parametersOf args dsn credentials, addresses.authHosts⟩ := by
  rw [assemble, if_neg (targetsOf_ne_nil h)]

/-- The faults of credentials: there is no user, or the database has no name. -/
theorem fault_of_credentials (h : Credentials.resolve args dsn env = .error e) :
    e = .missingUser ∨ e = .missingDatabase := by
  rw [Credentials.resolve] at h
  split at h
  · cases h
    exact Or.inl rfl
  · dsimp only at h
    split at h
    · cases h
      exact Or.inr rfl
    · cases h

/-- The faults of the connection string are its own. -/
theorem fault_of_readDsn (h : readDsn args = .error e) :
    (∃ scheme, e = .invalidScheme scheme) ∨ (∃ reason, e = .invalidDsn reason)
      ∨ ∃ field, e = .invalidQuery field := by
  rw [readDsn] at h
  split at h
  next => exact Dsn.error_of_parse h
  next => cases h

theorem readDsn_of_none (h : args.dsn.bind nonEmpty = none) : readDsn args = .ok {} := by
  rw [readDsn, h]

/-- **A resolution in three stages**, of which each fails on its own: the connection string, the
addresses, the credentials. -/
theorem resolve_eq (args : Arguments) (env : Environment) :
    SessionPlan.resolve args env = readDsn args >>= fun dsn =>
      Addresses.resolve args dsn env >>= fun addresses =>
      (Credentials.resolve args dsn env).map fun credentials =>
        ⟨targetsOf addresses, parametersOf args dsn credentials, addresses.authHosts⟩ := by
  rw [SessionPlan.resolve]
  refine bind_congr fun dsn => ?_
  cases h : Addresses.resolve args dsn env with
  | error e => rfl
  | ok addresses =>
    rw [ok_bind, ok_bind]
    cases Credentials.resolve args dsn env with
    | error e => rfl
    | ok credentials => exact assemble_eq h credentials

/-- What stands behind a resolution: a success of each stage. -/
theorem stages_of_resolve {r : Resolution} (h : SessionPlan.resolve args env = .ok r) :
    ∃ dsn addresses credentials, readDsn args = .ok dsn ∧
      Addresses.resolve args dsn env = .ok addresses ∧
      Credentials.resolve args dsn env = .ok credentials ∧
      r = ⟨targetsOf addresses, parametersOf args dsn credentials, addresses.authHosts⟩ := by
  rw [resolve_eq] at h
  obtain ⟨dsn, hdsn, h⟩ := bind_eq_ok_iff.mp h
  obtain ⟨addresses, haddresses, h⟩ := bind_eq_ok_iff.mp h
  obtain ⟨credentials, hcredentials, h⟩ := map_eq_ok_iff.mp h
  exact ⟨dsn, addresses, credentials, hdsn, haddresses, hcredentials, h.symm⟩

/-- What stands behind a failure: the first stage that fails. -/
theorem stage_of_error (h : SessionPlan.resolve args env = .error e) :
    readDsn args = .error e ∨
    (∃ dsn, readDsn args = .ok dsn ∧ Addresses.resolve args dsn env = .error e) ∨
    e = .missingUser ∨ e = .missingDatabase := by
  rw [resolve_eq] at h
  rcases bind_eq_error_iff.mp h with h | ⟨dsn, hdsn, h⟩
  · exact Or.inl h
  · right
    rcases bind_eq_error_iff.mp h with h | ⟨addresses, -, h⟩
    · exact Or.inl ⟨dsn, hdsn, h⟩
    · exact Or.inr (fault_of_credentials (map_eq_error_iff.mp h))

/-- What arguments come to once their connection string was read. -/
def ofDsn (args : Arguments) (dsn : Dsn) (env : Environment) : Except ParameterError Resolution :=
  Addresses.resolve args dsn env >>= fun addresses =>
    (Credentials.resolve args dsn env).map fun credentials =>
      ⟨targetsOf addresses, parametersOf args dsn credentials, addresses.authHosts⟩

theorem resolve_eq_ofDsn (args : Arguments) (env : Environment) :
    SessionPlan.resolve args env = readDsn args >>= fun dsn => ofDsn args dsn env :=
  resolve_eq args env

/-- Addresses, credentials and server settings are all that a resolution takes from a connection
string and an environment. -/
theorem ofDsn_congr {dsn' : Dsn} {env' : Environment}
    (haddresses : Addresses.resolve args dsn env = Addresses.resolve args dsn' env')
    (hcredentials : Credentials.resolve args dsn env = Credentials.resolve args dsn' env')
    (hsettings : serverSettings args dsn = serverSettings args dsn') :
    ofDsn args dsn env = ofDsn args dsn' env' := by
  unfold ofDsn parametersOf
  rw [haddresses, hcredentials, hsettings]

/-- The addresses that arguments come to, by rank of their sources; without a connection string that
parses there are none. -/
def rankedAddresses (args : Arguments) (env : Environment) : Except ParameterError Addresses :=
  readDsn args >>= fun dsn => Addresses.byRank args dsn env

/-- The connection string and the addresses come first, and the credentials fail on their own. -/
theorem resolve_eq_ranked (args : Arguments) (env : Environment) :
    SessionPlan.resolve args env = rankedAddresses args env >>= fun addresses =>
      readDsn args >>= fun dsn =>
      (Credentials.resolve args dsn env).map fun credentials =>
        ⟨targetsOf addresses, parametersOf args dsn credentials, addresses.authHosts⟩ := by
  rw [resolve_eq, rankedAddresses]
  cases readDsn args with
  | error e => rfl
  | ok dsn =>
    rw [ok_bind, ok_bind, Addresses.resolve_eq_byRank]
    rfl

/-- The faults before the credentials are never those of the credentials. -/
theorem fault_of_rankedAddresses (h : rankedAddresses args env = .error e) :
    e ≠ .missingUser ∧ e ≠ .missingDatabase := by
  rcases bind_eq_error_iff.mp h with h | ⟨dsn, -, h⟩
  · rcases fault_of_readDsn h with ⟨_, rfl⟩ | ⟨_, rfl⟩ | ⟨_, rfl⟩ <;> exact ⟨nofun, nofun⟩
  · rw [← Addresses.resolve_eq_byRank] at h
    cases Addresses.fault_of_resolve h with
    | port value source => exact ⟨nofun, nofun⟩
    | count ports_pos hosts_pos ne => exact ⟨nofun, nofun⟩

end Resolution

/-- **Addresses by rank.** The addresses of a resolution are those of its sources by rank. Apart
from the two faults of credentials, a resolution fails exactly when these addresses do, with the
same fault; and its targets pair their hosts with their ports. -/
theorem addresses_by_rank (args : Arguments) (env : Environment) :
    (∀ dsn, Addresses.resolve args dsn env = Addresses.byRank args dsn env) ∧
    (∀ e, (resolve args env = .error e ∧ e ≠ .missingUser ∧ e ≠ .missingDatabase) ↔
      Resolution.rankedAddresses args env = .error e) ∧
    ∀ r, resolve args env = .ok r → ∃ addresses,
      Resolution.rankedAddresses args env = .ok addresses ∧
      r.targets = (addresses.hosts.zip addresses.ports).map (fun a => Target.ofHost a.1 a.2) ∧
      r.authHosts = addresses.authHosts := by
  refine ⟨fun dsn => Addresses.resolve_eq_byRank args dsn env, fun e => ⟨?_, ?_⟩, fun r h => ?_⟩
  · -- past the addresses only the credentials fail, and their faults are set aside
    rintro ⟨h, huser, hdatabase⟩
    rw [Resolution.resolve_eq_ranked] at h
    rcases bind_eq_error_iff.mp h with h | ⟨addresses, haddresses, h⟩
    · exact h
    · obtain ⟨dsn, hdsn, -⟩ := bind_eq_ok_iff.mp haddresses
      rw [hdsn, ok_bind, map_eq_error_iff] at h
      rcases Resolution.fault_of_credentials h with rfl | rfl
      · exact absurd rfl huser
      · exact absurd rfl hdatabase
  · intro h
    refine ⟨?_, Resolution.fault_of_rankedAddresses h⟩
    rw [Resolution.resolve_eq_ranked, h, error_bind]
  · obtain ⟨dsn, addresses, credentials, hdsn, haddresses, -, rfl⟩ :=
      Resolution.stages_of_resolve h
    refine ⟨addresses, ?_, rfl, rfl⟩
    rw [Resolution.rankedAddresses, hdsn, ok_bind, ← Addresses.resolve_eq_byRank, haddresses]

end SessionPlan
