/-
The sources of a port.

A port may be given as an argument, in the environment or in a query. What the environment holds
means what the same port means as an argument, whatever names the hosts: both are asked at the same
two places, and in the same order. A query is read by another reader, which makes a list even of one
port. So a list means the same there, but one port is not shared by several hosts.
-/
import SessionPlan.Proofs.HostSources
import SessionPlan.Proofs.NamedHosts

set_option autoImplicit false

namespace SessionPlan

variable {args : Arguments} {dsn dsn' : Dsn} {env env' : Environment}

/-! ## Port texts -/

/-- The name of a source only matters to a fault. -/
theorem readPort_of_readPort {text : List Char} {source : String} {port : UInt16}
    (h : readPort text source = .ok port) (source' : String) :
    readPort text source' = .ok port := by
  unfold readPort at h ⊢
  split at h
  · exact h
  · cases h

namespace PortSpec

/-- The ports that a specification names; one that all hosts share is a list of one. -/
def ports : PortSpec → List UInt16
  | single port => [port]
  | list ports => ports

variable {text source : String} {spec : PortSpec}

theorem readList_of_readList {ports : List UInt16} (h : readList text source = .ok (.list ports))
    (source' : String) : readList text source' = .ok (.list ports) := by
  obtain ⟨read, hread, heq⟩ := map_eq_ok_iff.mp h
  cases heq
  have hpieces := (mapM_eq_ok_iff.mp hread).imp fun _ _ hpiece =>
    readPort_of_readPort hpiece source'
  rw [readList, mapM_eq_ok_iff.mpr hpieces, map_ok]

/-- **Two readers.** What one reader takes, the other takes as the list of its ports. -/
theorem readList_of_read (h : read text source = .ok spec) (source' : String) :
    readList text source' = .ok (.list spec.ports) := by
  rw [read] at h
  split at h
  next hcomma =>
    obtain ⟨ports, hports, rfl⟩ := map_eq_ok_iff.mp h
    exact readList_of_readList h source'
  next hcomma =>
    -- without a comma the text is its only piece
    obtain ⟨port, hport, rfl⟩ := map_eq_ok_iff.mp h
    rw [readList, List.splitOn_eq_singleton hcomma, List.mapM_cons,
      readPort_of_readPort hport source']
    rfl

theorem read_of_read (h : read text source = .ok spec) (source' : String) :
    read text source' = .ok spec := by
  rw [read] at h ⊢
  split at h
  next hcomma =>
    obtain ⟨ports, hports, rfl⟩ := map_eq_ok_iff.mp h
    rw [if_pos hcomma]
    exact readList_of_readList h source'
  next hcomma =>
    obtain ⟨port, hport, rfl⟩ := map_eq_ok_iff.mp h
    rw [if_neg hcomma, readPort_of_readPort hport source', map_ok]

/-- No port is spelled without a character. -/
theorem ne_empty_of_read (h : read text source = .ok spec) : text ≠ "" := by
  rintro rfl
  cases h

end PortSpec

/-! ## Base ports -/

namespace HostSource

theorem basePort_of_environment {source : HostSource} {text : String}
    (hargs : args.port.bind PortSpec.nonEmpty? = none) (hquery : source.queryPort? dsn = none)
    (henv : env.nonEmpty? "EDGEDB_PORT" = some text) :
    source.basePort args dsn env = PortSpec.read text "EDGEDB_PORT" := by
  rw [basePort, hargs, hquery, henv]
  rfl

theorem basePort_of_query {source : HostSource} {text : String}
    (hargs : args.port.bind PortSpec.nonEmpty? = none)
    (hquery : source.queryPort? dsn = some text) :
    source.basePort args dsn env = PortSpec.readList text "DSN query" := by
  rw [basePort, hargs, hquery]
  rfl

/-- Without hosts in the authority the port of a query counts. -/
theorem queryPort?_of_open (hlist : dsn.hostList = none) (dsn' : Dsn) :
    (of args dsn env).queryPort? dsn' = dsn'.query.get? "port" := by
  rw [of, hlist]
  cases args.host.bind HostSpec.nonEmpty? with
  | some spec => rfl
  | none =>
    cases dsn.query.get? "host" with
    | some text => rfl
    | none =>
      cases env.nonEmpty? "EDGEDB_HOST" with
      | some text => rfl
      | none => rfl

/-- Hosts are named by one argument, by two places of the connection string and by one variable. -/
theorem of_congr (hlist : dsn.hostList = dsn'.hostList)
    (hquery : dsn.query.get? "host" = dsn'.query.get? "host")
    (henv : env.nonEmpty? "EDGEDB_HOST" = env'.nonEmpty? "EDGEDB_HOST") (args : Arguments) :
    of args dsn env = of args dsn' env' := by
  rw [of, of, hlist, hquery, henv]

end HostSource

/-! ## Another port among the arguments -/

/-- The addresses of arguments that name a port: the source of the hosts does not depend on it. -/
theorem Addresses.resolve_withPort {spec : PortSpec} (h : spec.isEmpty = false) (args : Arguments)
    (dsn : Dsn) (env : Environment) :
    resolve { args with port := some spec } dsn env
      = (HostSource.of args dsn env).settle env.platform spec := by
  have hgiven : (some spec).bind PortSpec.nonEmpty? = some spec :=
    PortSpec.nonEmpty?_eq_some_iff.mpr ⟨rfl, h⟩
  exact resolve_of_basePort (HostSource.basePort_of_arguments hgiven _)

namespace Resolution

variable {base : PortSpec}

/-- The port of the arguments reaches a resolution through its addresses only. -/
theorem ofDsn_congr_port {spec : Option PortSpec}
    (haddresses : Addresses.resolve args dsn env
      = Addresses.resolve { args with port := spec } dsn' env')
    (hcredentials : Credentials.resolve args dsn env = Credentials.resolve args dsn' env')
    (hsettings : serverSettings args dsn = serverSettings args dsn') :
    ofDsn args dsn env = ofDsn { args with port := spec } dsn' env' := by
  have hcredentials' : Credentials.resolve { args with port := spec } dsn' env'
      = Credentials.resolve args dsn' env' := rfl
  have hparameters : parametersOf { args with port := spec } dsn' = parametersOf args dsn := by
    unfold parametersOf
    rw [hsettings]
    rfl
  unfold ofDsn
  rw [haddresses, hcredentials, hcredentials', hparameters]

/-- **A base port is a port of the arguments.** Wherever the port comes from that the hosts fall
back on, it counts as it would count among the arguments. -/
theorem ofDsn_of_basePort
    (hbase : (HostSource.of args dsn env).basePort args dsn env = .ok base)
    (hsource : HostSource.of args dsn env = HostSource.of args dsn' env')
    (hplatform : env.platform = env'.platform)
    (hcredentials : Credentials.resolve args dsn env = Credentials.resolve args dsn' env')
    (hsettings : serverSettings args dsn = serverSettings args dsn') :
    ofDsn args dsn env = ofDsn { args with port := some base } dsn' env' := by
  apply ofDsn_congr_port _ hcredentials hsettings
  rw [Addresses.resolve_of_basePort hbase,
    Addresses.resolve_withPort (Addresses.isEmpty_of_basePort hbase), hsource, hplatform]

end Resolution

/-! ## The environment -/

/-- **A port of the environment is a port of the arguments.** Where neither the arguments nor a
query name a port, the variable may as well be such an argument: the two resolutions are equal,
whether they succeed or fail and whatever names the hosts, and beside the argument the variable may
hold anything. -/
theorem port_variable_as_argument {text source : String} {spec : PortSpec}
    (hspec : PortSpec.read text source = .ok spec) {args : Arguments}
    (hargs : args.port.bind PortSpec.nonEmpty? = none)
    (hquery : ∀ dsn, Resolution.readDsn args = .ok dsn → dsn.query.get? "port" = none)
    (env : Environment) (other : Option String) :
    resolve args (env.withVariable "EDGEDB_PORT" (some text))
      = resolve { args with port := some spec } (env.withVariable "EDGEDB_PORT" other) := by
  have hread : Resolution.readDsn { args with port := some spec } = Resolution.readDsn args := rfl
  rw [Resolution.resolve_eq_ofDsn, Resolution.resolve_eq_ofDsn, hread]
  cases hdsn : Resolution.readDsn args with
  | error e => rfl
  | ok dsn =>
    rw [ok_bind, ok_bind]
    have hport : (env.withVariable "EDGEDB_PORT" (some text)).nonEmpty? "EDGEDB_PORT"
        = some text := by
      rw [Environment.nonEmpty?_withVariable, Option.bind_some, nonEmpty,
        if_neg (PortSpec.ne_empty_of_read hspec)]
    -- no other variable tells the two environments apart
    have henv : ∀ name, name ≠ "EDGEDB_PORT" →
        (env.withVariable "EDGEDB_PORT" (some text)).get? name
          = (env.withVariable "EDGEDB_PORT" other).get? name := by
      intro name hne
      simp [hne]
    apply Resolution.ofDsn_of_basePort
    · rw [HostSource.basePort_of_environment hargs
        (HostSource.queryPort?_eq_none (hquery dsn hdsn) _) hport]
      exact PortSpec.read_of_read hspec _
    · apply HostSource.of_congr rfl rfl
      unfold Environment.nonEmpty?
      rw [henv "EDGEDB_HOST" (by decide)]
    · rfl
    · exact Credentials.resolve_congr_environment (henv "EDGEDB_USER" (by decide))
        (henv "EDGEDB_PASSWORD" (by decide)) (henv "EDGEDB_DATABASE" (by decide)) rfl
    · rfl

/-- Ports for two hosts of the authority, one of which has a port of its own; and three ports for
them. -/
theorem port_variable_as_argument_of_lists :
    let args : Arguments := { dsn := some "edgedb://me@a,b:2/?tls=on" }
    let env : Environment := ⟨fun _ => none, none, .unix⟩
    PortSpec.read "7, +08" "ports" = .ok (.list [7, 8]) ∧
      PortSpec.read "1,2,3" "ports" = .ok (.list [1, 2, 3]) ∧
      resolve args (env.withVariable "EDGEDB_PORT" (some "7, +08"))
        = resolve { args with port := some (.list [7, 8]) }
          (env.withVariable "EDGEDB_PORT" (some "x")) ∧
      (resolve args (env.withVariable "EDGEDB_PORT" (some "7, +08"))).map (·.targets)
        = .ok [.tcp "a" 7, .tcp "b" 2] ∧
      resolve args (env.withVariable "EDGEDB_PORT" (some "1,2,3"))
        = resolve { args with port := some (.list [1, 2, 3]) }
          (env.withVariable "EDGEDB_PORT" none) ∧
      resolve args (env.withVariable "EDGEDB_PORT" (some "1,2,3"))
        = .error (.portCountMismatch 3 2) := by
  intro args env
  have htwo : PortSpec.read "7, +08" "ports" = .ok (.list [7, 8]) := by rfl
  have hthree : PortSpec.read "1,2,3" "ports" = .ok (.list [1, 2, 3]) := by rfl
  have hparse : Resolution.readDsn args = .ok {
      user := some "me"
      hostList := some "a,b:2"
      query := .ofList [("tls", "on")] } := by rfl
  have hquery : ∀ dsn, Resolution.readDsn args = .ok dsn → dsn.query.get? "port" = none := by
    intro dsn hdsn
    rw [hparse] at hdsn
    cases hdsn
    rfl
  exact ⟨htwo, hthree, port_variable_as_argument htwo rfl hquery env (some "x"), by rfl,
    port_variable_as_argument hthree rfl hquery env none, by rfl⟩

/-! ## Queries -/

namespace Resolution

/-- A port that is read from a query is the list of its ports among the arguments. -/
theorem ofDsn_insert_port {text source : String} {spec : PortSpec}
    (hspec : PortSpec.read text source = .ok spec)
    (hargs : args.port.bind PortSpec.nonEmpty? = none) (hlist : dsn.hostList = none)
    (env : Environment) :
    ofDsn args { dsn with query := dsn.query.insert "port" text } env
      = ofDsn { args with port := some (.list spec.ports) } dsn env := by
  have hkey : ∀ key, key ≠ "port" →
      (dsn.query.insert "port" text).get? key = dsn.query.get? key := by
    intro key hne
    rw [TextMap.get?_insert, if_neg hne]
  have hport : (dsn.query.insert "port" text).get? "port" = some text := by
    rw [TextMap.get?_insert, if_pos rfl]
  have hsource : HostSource.of args { dsn with query := dsn.query.insert "port" text } env
      = HostSource.of args dsn env := by
    apply HostSource.of_congr
    · rfl
    · exact hkey "host" (by decide)
    · rfl
  apply ofDsn_of_basePort
  · rw [hsource, HostSource.basePort_of_query hargs
      ((HostSource.queryPort?_of_open hlist _).trans hport)]
    exact PortSpec.readList_of_read hspec _
  · exact hsource
  · rfl
  · apply Credentials.resolve_congr_dsn
    · rfl
    · rfl
    · rfl
    · intro key hmem
      apply hkey
      rintro rfl
      exact absurd hmem (by decide)
  · apply serverSettings_congr_dsn
    intro key hmem
    apply hkey
    rintro rfl
    exact hmem (by decide)

/-- A port field in the text of a query, wherever it stands there, is an entry of what is read. -/
theorem resolve_insertField_port {layout : Dsn.Layout} (hopen : layout.hostList = [])
    (hkeys : ∀ field ∈ layout.fields, Dsn.fieldKey? field ≠ some "port")
    {text source : String} {spec : PortSpec} (hspec : PortSpec.read text source = .ok spec)
    {value : Dsn.QueryPiece} (hvalue : value.text = text.toList)
    (hargs : args.port.bind PortSpec.nonEmpty? = none) (env : Environment) (n : Nat) :
    SessionPlan.resolve
        { args with dsn := some (layout.insertField n (.field .portKey value)).text } env
      = SessionPlan.resolve
        { args with dsn := some layout.text, port := some (.list spec.ports) } env := by
  have hne : value.text ≠ [] := by
    rw [hvalue, ne_eq, String.toList_eq_nil_iff]
    exact PortSpec.ne_empty_of_read hspec
  have hentry : Dsn.fieldPair? (Dsn.QueryPiece.field .portKey value).written
      = some ("port", text) := by
    rw [Dsn.QueryPiece.fieldPair?_field (by decide) hne, hvalue, String.ofList_toList]
    rfl
  have hlater : ∀ field ∈ layout.fields.drop n, Dsn.fieldKey? field ≠ some "port" :=
    fun field hfield => hkeys field (List.mem_of_mem_drop hfield)
  have hgiven := resolve_of_layout { args with port := some (.list spec.ports) } layout env
  rw [hgiven, resolve_of_layout, Dsn.Layout.parse_insertField hentry hlater, bind_of_map]
  -- a string with a fault has it in both forms
  cases hparse : Dsn.parse layout.text with
  | error e => rfl
  | ok dsn =>
    have hlist : dsn.hostList = none := by
      rw [(Dsn.Layout.denotes_of_parse hparse).hostList, if_pos hopen]
    rw [ok_bind, ok_bind]
    exact ofDsn_insert_port hspec hargs hlist env

variable {port : UInt16}

/-- One host does not tell a list of one port from a port that all hosts share. -/
theorem ofDsn_list_singleton_of_one
    (hone : ((HostSource.of args dsn env).names env.platform).length = 1) :
    ofDsn { args with port := some (.list [port]) } dsn env
      = ofDsn { args with port := some (.single port) } dsn env := by
  have hports : (PortSpec.list [port]).forHosts 1 = (PortSpec.single port).forHosts 1 := rfl
  have haddresses : Addresses.resolve { args with port := some (.list [port]) } dsn env
      = Addresses.resolve { args with port := some (.single port) } dsn env := by
    rw [Addresses.resolve_withPort rfl, Addresses.resolve_withPort rfl]
    apply HostSource.settle_congr
    rw [hone, hports]
  exact ofDsn_congr_port haddresses rfl rfl

/-- Any other number of hosts does not match a list of one port. -/
theorem ofDsn_list_singleton_of_ne
    (hne : ((HostSource.of args dsn env).names env.platform).length ≠ 1) :
    ofDsn { args with port := some (.list [port]) } dsn env
      = .error (.portCountMismatch 1 ((HostSource.of args dsn env).names env.platform).length) := by
  have hcount : (PortSpec.list [port]).forHosts
        ((HostSource.of args dsn env).names env.platform).length
      = .error (.portCountMismatch 1
          ((HostSource.of args dsn env).names env.platform).length) := by
    rw [PortSpec.forHosts, List.length_singleton, if_neg (Ne.symm hne)]
  unfold ofDsn
  rw [Addresses.resolve_withPort rfl, HostSource.settle_eq_place, hcount, error_bind, error_bind]

end Resolution

/-- **A port of a query is a list.** Where the arguments name no port, and a connection string
without hosts in its authority has no other field for ports, a port text in its query counts as the
list of its ports among the arguments; it may be any field, in any encoding. So it counts as the
same port would, the fault included, unless it is a single port and there is not exactly one host:
then it does not match the hosts. -/
theorem query_port_as_argument {layout : Dsn.Layout} (hopen : layout.hostList = [])
    (hkeys : ∀ field ∈ layout.fields, Dsn.fieldKey? field ≠ some "port")
    {text source : String} {spec : PortSpec} (hspec : PortSpec.read text source = .ok spec)
    {value : Dsn.QueryPiece} (hvalue : value.text = text.toList) {args : Arguments}
    (hargs : args.port.bind PortSpec.nonEmpty? = none) (env : Environment) (n : Nat) :
    let queried := resolve
      { args with dsn := some (layout.insertField n (.field .portKey value)).text } env
    let given (port : PortSpec) :=
      resolve { args with dsn := some layout.text, port := some port } env
    queried = given (.list spec.ports) ∧
    ((∀ dsn port, Dsn.parse layout.text = .ok dsn → spec = .single port →
      ((HostSource.of args dsn env).names env.platform).length = 1) → queried = given spec) ∧
    ∀ dsn port, Dsn.parse layout.text = .ok dsn → spec = .single port →
      ((HostSource.of args dsn env).names env.platform).length ≠ 1 →
      queried = .error
        (.portCountMismatch 1 ((HostSource.of args dsn env).names env.platform).length) := by
  intro queried given
  have hgiven : ∀ port, given port = Dsn.parse layout.text >>= fun dsn =>
      Resolution.ofDsn { args with port := some port } dsn env :=
    fun port => Resolution.resolve_of_layout { args with port := some port } layout env
  have hqueried : queried = given (.list spec.ports) :=
    Resolution.resolve_insertField_port hopen hkeys hspec hvalue hargs env n
  refine ⟨hqueried, ?_, ?_⟩
  · intro hone
    rw [hqueried]
    cases spec with
    | list ports => rfl
    | single port =>
      rw [hgiven, hgiven]
      cases hparse : Dsn.parse layout.text with
      | error e => rfl
      | ok dsn =>
        rw [ok_bind, ok_bind]
        exact Resolution.ofDsn_list_singleton_of_one (hone dsn port hparse rfl)
  · rintro dsn port hparse rfl hmany
    rw [hqueried, hgiven, hparse, ok_bind]
    exact Resolution.ofDsn_list_singleton_of_ne hmany

/-- A list of two ports between two other fields, for two hosts of the query; and a single port in
the same place, which does not match them. -/
theorem query_port_as_argument_of_two_hosts :
    let layout : Dsn.Layout := {
      authority := some {
        userInfo := some ⟨"me".toList, none, by simp, by simp⟩
        hostList := []
        hostList_free := by simp }
      path := "/app".toList
      query := some "tls=on&host=a,b:9".toList
      fragment := none
      path_start := by decide
      path_free := by simp
      query_free := by simp }
    let env : Environment :=
      ⟨fun name => if name = "EDGEDB_PORT" then some "x" else none, none, .unix⟩
    let withPort (text : String) :=
      (layout.insertField 1 (.field .portKey (.encode text.toList))).text
    PortSpec.read "7, +08" "ports" = .ok (.list [7, 8]) ∧
      PortSpec.read "7" "ports" = .ok (.single 7) ∧
      withPort "7, +08" = "edgedb://me@/app?tls=on&port=7%2C+%2B08&host=a,b:9" ∧
      resolve { dsn := some (withPort "7, +08") } env
        = resolve { dsn := some layout.text, port := some (.list [7, 8]) } env ∧
      (resolve { dsn := some (withPort "7, +08") } env).map (·.targets)
        = .ok [.tcp "a" 7, .tcp "b" 9] ∧
      resolve { dsn := some (withPort "7") } env = .error (.portCountMismatch 1 2) := by
  intro layout env withPort
  have htwo : PortSpec.read "7, +08" "ports" = .ok (.list [7, 8]) := by rfl
  have hone : PortSpec.read "7" "ports" = .ok (.single 7) := by rfl
  have hopen : layout.hostList = [] := rfl
  have hkeys : ∀ field ∈ layout.fields, Dsn.fieldKey? field ≠ some "port" := by decide
  have htext : withPort "7, +08" = "edgedb://me@/app?tls=on&port=7%2C+%2B08&host=a,b:9" := by rfl
  have hargs : ({} : Arguments).port.bind PortSpec.nonEmpty? = none := rfl
  obtain ⟨hlist, -, -⟩ := query_port_as_argument hopen hkeys htwo
    (Dsn.QueryPiece.text_encode _) hargs env 1
  obtain ⟨-, -, hmany⟩ := query_port_as_argument hopen hkeys hone
    (Dsn.QueryPiece.text_encode _) hargs env 1
  have hplain : layout.text = "edgedb://me@/app?tls=on&host=a,b:9" := by rfl
  have hparse : Dsn.parse layout.text = .ok {
      user := some "me"
      database := some "app"
      query := .ofList [("tls", "on"), ("host", "a,b:9")] } := by
    rw [hplain]
    rfl
  refine ⟨htwo, hone, htext, hlist, ?_, hmany _ 7 hparse rfl (by decide)⟩
  rw [htext]
  rfl

/-- A single port of a query is not shared by several hosts, though the same port of the arguments
is. -/
theorem single_query_port_not_shared :
    ¬ ∀ (layout : Dsn.Layout) (n : Nat) (value : Dsn.QueryPiece) (text source : String)
      (spec : PortSpec) (args : Arguments) (env : Environment), layout.hostList = [] →
      (∀ field ∈ layout.fields, Dsn.fieldKey? field ≠ some "port") →
      PortSpec.read text source = .ok spec → value.text = text.toList →
      args.port.bind PortSpec.nonEmpty? = none →
      resolve { args with dsn := some (layout.insertField n (.field .portKey value)).text } env
        = resolve { args with dsn := some layout.text, port := some spec } env := by
  intro h
  let layout : Dsn.Layout := {
    authority := some { userInfo := none, hostList := [], hostList_free := by simp }
    path := []
    query := some "host=a,b".toList
    fragment := none
    path_start := by decide
    path_free := by simp
    query_free := by simp }
  have hkeys : ∀ field ∈ layout.fields, Dsn.fieldKey? field ≠ some "port" := by decide
  have hsame := h layout 1 (.encode "7".toList) "7" "ports" (.single 7) { user := some "me" }
    ⟨fun _ => none, none, .unix⟩ rfl hkeys rfl (Dsn.QueryPiece.text_encode _) rfl
  have hqueried :
      (layout.insertField 1 (.field .portKey (.encode "7".toList))).text
        = "edgedb://?host=a,b&port=7" := by rfl
  have hplain : layout.text = "edgedb://?host=a,b" := by rfl
  rw [hqueried, hplain] at hsame
  have hfault : resolve { dsn := some "edgedb://?host=a,b&port=7", user := some "me" }
      ⟨fun _ => none, none, .unix⟩ = .error (.portCountMismatch 1 2) := by rfl
  rw [hfault] at hsame
  have hok : (resolve
      { user := some "me", dsn := some "edgedb://?host=a,b", port := some (.single 7) }
      ⟨fun _ => none, none, .unix⟩).isOk = true := by rfl
  rw [← hsame] at hok
  cases hok

end SessionPlan
