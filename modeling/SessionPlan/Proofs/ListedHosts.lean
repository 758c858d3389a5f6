/-
Hosts one by one, and the same hosts as a text.

Hosts that hold neither a comma nor a colon can be written with commas between them. Splitting the
text gives them back, empty ones included, and none of them has a port of its own. So the ports they
fall back on are matched with the same number of hosts in both forms, and a list of hosts among the
arguments is the same list in the environment.
-/
import SessionPlan.Proofs.Feedback
import SessionPlan.Proofs.HostSources
import SessionPlan.Proofs.NamedHosts

set_option autoImplicit false

namespace SessionPlan

variable {args : Arguments} {dsn : Dsn} {env env' : Environment} {hosts : List String}

/-! ## Entries without ports -/

namespace HostList

theorem ne_nil_of_intercalate_ne_empty (h : ",".intercalate hosts ≠ "") : hosts ≠ [] := by
  rintro rfl
  exact h String.intercalate_nil

theorem splitOn_intercalate (hne : hosts ≠ []) (hcomma : ∀ host ∈ hosts, ',' ∉ host.toList) :
    (",".intercalate hosts).toList.splitOn ',' = hosts.map String.toList := by
  rw [String.toList_intercalate]
  apply List.splitOn_intercalate ','
  · intro entry hentry
    obtain ⟨host, hhost, rfl⟩ := List.mem_map.mp hentry
    exact hcomma host hhost
  · rwa [ne_eq, List.map_eq_nil_iff]

theorem readEntry_of_not_mem {entry : List Char} (h : ':' ∉ entry) (port : UInt16) :
    readEntry entry port = .ok (String.ofList entry, port) := by
  rw [readEntry, Dsn.cutOff_of_not_mem h]
  rfl

/-- Items that are read one by one, each with a port beside it. -/
theorem readEntries_map {α : Type} {entry : α → List Char} {port own : α → UInt16}
    {host : α → String} {items : List α}
    (h : ∀ item ∈ items, readEntry (entry item) (port item) = .ok (host item, own item)) :
    readEntries (items.map entry) (items.map port) = .ok ⟨items.map host, items.map own⟩ := by
  induction items with
  | nil => rfl
  | cons item items ih =>
    have hrest := ih fun i hi => h i (List.mem_cons_of_mem item hi)
    rw [List.map_cons, List.map_cons, readEntries, h item List.mem_cons_self, ok_bind, hrest]
    rfl

theorem readEntries_of_not_mem {ports : List UInt16} (hlen : ports.length = hosts.length)
    (hcolon : ∀ host ∈ hosts, ':' ∉ host.toList) :
    readEntries (hosts.map String.toList) ports = .ok ⟨hosts, ports⟩ := by
  have hread : ∀ item ∈ hosts.zip ports, readEntry item.1.toList item.2 = .ok (item.1, item.2) := by
    intro item hitem
    rw [readEntry_of_not_mem (hcolon item.1 (List.of_mem_zip hitem).1), String.ofList_toList]
  have hzip := readEntries_map hread
  -- a pair for every host, so both lists come back from the pairs
  have hhosts : (hosts.zip ports).map (·.1) = hosts := List.map_fst_zip (Nat.le_of_eq hlen.symm)
  have hports : (hosts.zip ports).map (·.2) = ports := List.map_snd_zip (Nat.le_of_eq hlen)
  have hentries : (hosts.zip ports).map (·.1.toList) = hosts.map String.toList := by
    conv_rhs => rw [← hhosts, List.map_map]
    rfl
  rwa [hentries, hports, hhosts] at hzip

end HostList

/-! ## One list in two places -/

namespace HostSource

/-- **A text of hosts** is settled as the hosts are. -/
theorem settle_intercalate (hne : hosts ≠ [])
    (hfree : ∀ host ∈ hosts, ',' ∉ host.toList ∧ ':' ∉ host.toList) (base : PortSpec)
    (platform platform' : Platform) :
    (environment (",".intercalate hosts)).settle platform base
      = (arguments hosts).settle platform' base := by
  have hentries := HostList.splitOn_intercalate hne fun host hhost => (hfree host hhost).1
  have hcolon : ∀ host ∈ hosts, ':' ∉ host.toList := fun host hhost => (hfree host hhost).2
  show (HostList.split (",".intercalate hosts) base).map Addresses.ofHostList
    = (base.forHosts hosts.length).map fun ports => (⟨hosts, ports, hosts⟩ : Addresses)
  rw [HostList.split_eq_readEntries, HostList.names, hentries, List.length_map, List.length_map]
  cases hports : base.forHosts hosts.length with
  | error e => rfl
  | ok ports =>
    rw [ok_bind, HostList.readEntries_of_not_mem (PortSpec.length_of_forHosts hports) hcolon]
    rfl

theorem basePort_congr {args' : Arguments} {source source' : HostSource}
    (hargs : args.port = args'.port) (hquery : source.queryPort? dsn = source'.queryPort? dsn)
    (henv : env.nonEmpty? "EDGEDB_PORT" = env'.nonEmpty? "EDGEDB_PORT") :
    source.basePort args dsn env = source'.basePort args' dsn env' := by
  rw [basePort, basePort, hargs, hquery, henv]

end HostSource

theorem Addresses.resolve_list (hne : hosts ≠ [])
    (hfree : ∀ host ∈ hosts, ',' ∉ host.toList ∧ ':' ∉ host.toList)
    (hargs : args.host.bind HostSpec.nonEmpty? = none) (hlist : dsn.hostList = none)
    (hquery : dsn.query.get? "host" = none)
    (hhosts : env'.nonEmpty? "EDGEDB_HOST" = some (",".intercalate hosts))
    (hports : env.nonEmpty? "EDGEDB_PORT" = env'.nonEmpty? "EDGEDB_PORT") :
    resolve { args with host := some (.list hosts) } dsn env = resolve args dsn env' := by
  have hgiven : (some (HostSpec.list hosts)).bind HostSpec.nonEmpty? = some (.list hosts) :=
    HostSpec.nonEmpty?_list hne
  have hsource : HostSource.of { args with host := some (.list hosts) } dsn env
      = .arguments hosts := by
    rw [HostSource.of, hgiven]
    rfl
  have hsource' : HostSource.of args dsn env' = .environment (",".intercalate hosts) := by
    rw [HostSource.of, hargs, hlist, hquery, hhosts]
    rfl
  rw [resolve_eq_byRank, resolve_eq_byRank, byRank, byRank, hsource, hsource']
  -- neither source keeps the port of the query from counting
  have hbase : (HostSource.arguments hosts).basePort { args with host := some (.list hosts) } dsn env
      = (HostSource.environment (",".intercalate hosts)).basePort args dsn env' :=
    HostSource.basePort_congr rfl rfl hports
  rw [hbase]
  apply bind_congr
  intro base
  exact (HostSource.settle_intercalate hne hfree base _ _).symm

/-- The variable of the hosts has no say in the credentials. -/
theorem Credentials.resolve_withHostVariable (args : Arguments) (dsn : Dsn) (env : Environment)
    (value : Option String) :
    resolve args dsn (env.withVariable "EDGEDB_HOST" value) = resolve args dsn env := by
  have hother : ∀ name, name ≠ "EDGEDB_HOST" →
      (env.withVariable "EDGEDB_HOST" value).get? name = env.get? name := fun name hne => if_neg hne
  exact resolve_congr_environment (hother "EDGEDB_USER" (by decide))
    (hother "EDGEDB_PASSWORD" (by decide)) (hother "EDGEDB_DATABASE" (by decide)) rfl

/-- **Hosts one by one or as a text.** Hosts that hold neither a comma nor a colon may stand among
the arguments as a list, or with commas between them in the environment. The two resolutions are
equal, whether they succeed or fail and wherever the ports come from, as long as the connection
string names no hosts. Beside the list the variable may hold anything. -/
theorem listed_hosts_as_argument {hosts : List String}
    (hfree : ∀ host ∈ hosts, ',' ∉ host.toList ∧ ':' ∉ host.toList)
    (hne : ",".intercalate hosts ≠ "") {args : Arguments}
    (hargs : args.host.bind HostSpec.nonEmpty? = none)
    (hdsn : ∀ dsn, Resolution.readDsn args = .ok dsn →
      dsn.hostList = none ∧ dsn.query.get? "host" = none)
    (env : Environment) (other : Option String) :
    resolve { args with host := some (.list hosts) } (env.withVariable "EDGEDB_HOST" other)
      = resolve args (env.withVariable "EDGEDB_HOST" (some (",".intercalate hosts))) := by
  have hread : Resolution.readDsn { args with host := some (.list hosts) }
      = Resolution.readDsn args := rfl
  rw [Resolution.resolve_eq_ofDsn, Resolution.resolve_eq_ofDsn, hread]
  cases hparse : Resolution.readDsn args with
  | error e => rfl
  | ok dsn =>
    obtain ⟨hlist, hquery⟩ := hdsn dsn hparse
    have hports : (env.withVariable "EDGEDB_HOST" other).nonEmpty? "EDGEDB_PORT"
        = (env.withVariable "EDGEDB_HOST" (some (",".intercalate hosts))).nonEmpty? "EDGEDB_PORT" := by
      rw [Environment.nonEmpty?_withVariable_of_ne (by decide),
        Environment.nonEmpty?_withVariable_of_ne (by decide)]
    have hhosts : (env.withVariable "EDGEDB_HOST" (some (",".intercalate hosts))).nonEmpty?
        "EDGEDB_HOST" = some (",".intercalate hosts) := by
      rw [Environment.nonEmpty?_withVariable, Option.bind_some, nonEmpty_of_ne hne]
    have haddresses := Addresses.resolve_list (HostList.ne_nil_of_intercalate_ne_empty hne) hfree
      hargs hlist hquery hhosts hports
    have hcredentials : Credentials.resolve { args with host := some (.list hosts) } dsn env
        = Credentials.resolve args dsn env := rfl
    rw [ok_bind, ok_bind]
    unfold Resolution.ofDsn
    rw [haddresses, Credentials.resolve_withHostVariable, Credentials.resolve_withHostVariable,
      hcredentials]
    rfl

/-- Three hosts, one of them without a name and one a directory, with the ports of a query; and with
two ports of the environment, which do not match them. -/
theorem listed_hosts_as_argument_of_three :
    let hosts := ["a", "", "/tmp"]
    let args (dsn : String) : Arguments := { dsn := some dsn, user := some "me" }
    let withHosts (dsn : String) : Arguments := { args dsn with host := some (.list hosts) }
    let env : Environment :=
      ⟨fun name => if name = "EDGEDB_PORT" then some "7,8" else none, none, .unix⟩
    ",".intercalate hosts = "a,,/tmp" ∧
      resolve (withHosts "edgedb:?port=1,2,3") (env.withVariable "EDGEDB_HOST" (some "x:y"))
        = resolve (args "edgedb:?port=1,2,3") (env.withVariable "EDGEDB_HOST" (some "a,,/tmp")) ∧
      (resolve (args "edgedb:?port=1,2,3")
        (env.withVariable "EDGEDB_HOST" (some "a,,/tmp"))).map (·.targets)
        = .ok [.tcp "a" 1, .tcp "" 2, .socket "/tmp/.s.EDGEDB.3"] ∧
      resolve (withHosts "edgedb:") (env.withVariable "EDGEDB_HOST" none)
        = .error (.portCountMismatch 2 3) := by
  intro hosts args withHosts env
  have htext : ",".intercalate hosts = "a,,/tmp" := by decide +kernel
  have hfree : ∀ host ∈ hosts, ',' ∉ host.toList ∧ ':' ∉ host.toList := by decide +kernel
  have hne : ",".intercalate hosts ≠ "" := by
    rw [htext]
    decide
  have hports : Resolution.readDsn (args "edgedb:?port=1,2,3")
      = .ok { query := .ofList [("port", "1,2,3")] } := by rfl
  have hnone : Resolution.readDsn (args "edgedb:") = .ok {} := by rfl
  have hquery : ∀ dsn, Resolution.readDsn (args "edgedb:?port=1,2,3") = .ok dsn →
      dsn.hostList = none ∧ dsn.query.get? "host" = none := by
    intro dsn hdsn
    rw [hports] at hdsn
    cases hdsn
    exact ⟨rfl, rfl⟩
  have hplain : ∀ dsn, Resolution.readDsn (args "edgedb:") = .ok dsn →
      dsn.hostList = none ∧ dsn.query.get? "host" = none := by
    intro dsn hdsn
    rw [hnone] at hdsn
    cases hdsn
    exact ⟨rfl, rfl⟩
  have hequal := listed_hosts_as_argument hfree hne rfl hquery env (some "x:y")
  have hfault := listed_hosts_as_argument hfree hne rfl hplain env none
  rw [htext] at hequal hfault
  exact ⟨htext, hequal, by rfl, hfault.trans (by rfl)⟩

end SessionPlan
