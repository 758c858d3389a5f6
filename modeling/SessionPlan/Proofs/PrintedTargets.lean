/-
Targets in writing.

A target is written as its path, or as host and port with a colon between them. With commas in
between, targets make a host list; and unless a host or a path holds a comma or a colon itself, this
list reads back as the same targets. A path has no port of its own there, but it names a socket file
already, so whatever port stands beside it is of no account, as long as there is one.
-/
import SessionPlan.Proofs.ListedHosts
import SessionPlan.Proofs.NonEmptyNames
import SessionPlan.Proofs.PortSources
import SessionPlan.Proofs.PortText

set_option autoImplicit false

namespace SessionPlan

variable {args : Arguments} {dsn : Dsn} {env : Environment}

/-! ## One target -/

namespace Target

variable {target : Target}

/-- The port of a target that stands in a host list: its own, or that of the list at its place. -/
def portBeside : Target → UInt16 → UInt16
  | socket _, port => port
  | tcp _ own, _ => own

theorem admits_portBeside (target : Target) (port : UInt16) :
    target.Admits (target.portBeside port) := by
  cases target with
  | socket path => trivial
  | tcp host own => rfl

theorem not_mem_shown {c : Char} (h : c ∉ target.hostText.toList) (hdigit : c.isDigit = false)
    (hcolon : c ≠ ':') : c ∉ target.shown.toList := by
  cases target with
  | socket path => exact h
  | tcp host own =>
    rw [shown, String.toList_ofList, List.mem_append, List.mem_cons, not_or, not_or]
    exact ⟨h, hcolon, not_mem_portDigits hdigit own⟩

/-- A target is never written as the empty text: a path begins with a slash. -/
theorem shown_ofHost_ne_empty (host : String) (port : UInt16) : (ofHost host port).shown ≠ "" := by
  intro hempty
  have hnil : (ofHost host port).shown.toList = [] := String.toList_eq_nil_iff.mpr hempty
  by_cases hslash : host.toList.head? = some '/'
  · have hhead : (ofHost host port).shown.toList.head? = some '/' := by
      rw [ofHost, if_pos hslash]
      split
      · exact hslash
      · rw [shown, String.toList_ofList]
        exact head?_socketPath hslash port
    rw [hnil] at hhead
    cases hhead
  · rw [ofHost, if_neg hslash, shown, String.toList_ofList] at hnil
    simp at hnil

end Target

theorem Target.intercalate_shown_ne_empty {targets : List Target} (hne : targets ≠ [])
    (hmade : ∀ target ∈ targets, ∃ host port, target = ofHost host port) :
    ",".intercalate (targets.map shown) ≠ "" := by
  cases targets with
  | nil => exact absurd rfl hne
  | cons target targets =>
    obtain ⟨host, port, rfl⟩ := hmade target List.mem_cons_self
    cases targets with
    | nil =>
      rw [List.map_cons, List.map_nil, String.intercalate_singleton]
      exact shown_ofHost_ne_empty host port
    | cons next targets =>
      rw [List.map_cons, List.map_cons, String.intercalate_cons_cons]
      simp

namespace HostList

/-- **An entry for a target** holds its host, and its port if it is a TCP target. -/
theorem readEntry_shown {target : Target} (h : ':' ∉ target.hostText.toList) (port : UInt16) :
    readEntry target.shown.toList port = .ok (target.hostText, target.portBeside port) := by
  cases target with
  | socket path =>
    have hpath : ':' ∉ path.toList := h
    rw [Target.shown, readEntry_of_not_mem hpath, String.ofList_toList]
    rfl
  | tcp host own =>
    have hhost : ':' ∉ host.toList := h
    rw [readEntry, Target.shown, String.toList_ofList, Dsn.cutOff_append hhost]
    dsimp only
    rw [if_neg (Target.portDigits_ne_nil own), readPort_portDigits, map_ok, String.ofList_toList]
    rfl

/-! ## Several targets -/

/-- The host list of targets; the given port stands beside every path. -/
def ofTargets (targets : List Target) (port : UInt16) : HostList :=
  ⟨targets.map Target.hostText, targets.map fun target => target.portBeside port⟩

theorem split_shown {targets : List Target} (hne : targets ≠ [])
    (h : ∀ target ∈ targets, ',' ∉ target.hostText.toList ∧ ':' ∉ target.hostText.toList)
    (port : UInt16) :
    split (",".intercalate (targets.map Target.shown)) (.single port)
      = .ok (ofTargets targets port) := by
  have hcomma : ∀ shown ∈ targets.map Target.shown, ',' ∉ shown.toList := by
    intro shown hshown
    obtain ⟨target, htarget, rfl⟩ := List.mem_map.mp hshown
    exact Target.not_mem_shown (h target htarget).1 (by decide) (by decide)
  have hentries := splitOn_intercalate (List.map_eq_nil_iff.not.mpr hne) hcomma
  have hread := readEntries_map fun target htarget => readEntry_shown (h target htarget).2 port
  -- one port beside all of the entries
  rw [List.map_const'] at hread
  rw [split_eq_readEntries, names, hentries, List.length_map, List.length_map, List.length_map,
    PortSpec.forHosts, ok_bind, List.map_map]
  exact hread

end HostList

/-- Targets come back from their host list. -/
theorem Resolution.targetsOf_ofTargets {targets : List Target}
    (hmade : ∀ target ∈ targets, ∃ host port, target = Target.ofHost host port) (port : UInt16) :
    targetsOf (.ofHostList (.ofTargets targets port)) = targets := by
  have hback : ∀ target ∈ targets,
      Target.ofHost target.hostText (target.portBeside port) = target := by
    intro target htarget
    obtain ⟨host, own, rfl⟩ := hmade target htarget
    exact Target.ofHost_hostText (Target.admits_portBeside _ port)
  rw [targetsOf, Addresses.ofHostList, HostList.ofTargets, List.zip_map', List.map_map]
  exact (List.map_congr_left hback).trans (List.map_id' targets)

/-! ## Resolutions -/

theorem Credentials.user_ne_empty_of_login {user login : String}
    (huser : firstPresent (userSources args dsn env) = some user)
    (hlogin : env.loginUser = some login) (hne : login ≠ "") (hdsn : dsn.Printable) :
    user ≠ "" := by
  rintro rfl
  rw [firstPresent_userSources, Option.or_eq_some_iff] at huser
  rcases huser with hnamed | ⟨-, hempty⟩
  · exact ne_empty_of_mem_namedUsers hdsn (mem_of_firstPresent hnamed) rfl
  · rw [hlogin] at hempty
    exact hne (Option.some.inj hempty)

/-- A login user with a name is enough for credentials. -/
theorem Credentials.exists_resolve_of_login {login : String} (hlogin : env.loginUser = some login)
    (hne : login ≠ "") (hdsn : dsn.Printable) (args : Arguments) :
    ∃ credentials, resolve args dsn env = .ok credentials := by
  cases h : resolve args dsn env with
  | ok credentials => exact ⟨credentials, rfl⟩
  | error e =>
    rcases Resolution.fault_of_credentials h with rfl | rfl
    · have hnone := resolve_eq_missingUser_iff.mp h env.loginUser (by simp [userSources])
      rw [hlogin] at hnone
      cases hnone
    · -- no source of the database is an empty text, the name of the user included
      obtain ⟨user, huser, hdatabase⟩ := resolve_eq_missingDatabase_iff.mp h
      have hmem := mem_of_firstPresent hdatabase
      simp only [databaseSources, List.mem_cons, List.not_mem_nil, or_false] at hmem
      rcases hmem with hargs | hpath | hquery | hquery | hvariable | hname
      · exact absurd hargs.symm (bind_nonEmpty_ne_empty _)
      · exact absurd hpath.symm hdsn.database
      · exact absurd hquery.symm (hdsn.get?_ne_empty "database")
      · exact absurd hquery.symm (hdsn.get?_ne_empty "dbname")
      · exact absurd hvariable.symm (bind_nonEmpty_ne_empty _)
      · exact absurd (Option.some.inj hname).symm (user_ne_empty_of_login huser hlogin hne hdsn)

/-- A port variable that is unset or empty, or that holds one port. -/
def Environment.SharesPort (env : Environment) : Prop :=
  env.nonEmpty? "EDGEDB_PORT" = none ∨ ∃ text port, env.get? "EDGEDB_PORT" = some text ∧
    PortSpec.read text "EDGEDB_PORT" = .ok (.single port)

theorem Environment.SharesPort.ofEnvironment (h : env.SharesPort) :
    ∃ port, PortSpec.ofEnvironment env = .ok (.single port) := by
  rcases h with hnone | ⟨text, port, hset, hread⟩
  · refine ⟨5656, ?_⟩
    rw [PortSpec.ofEnvironment, Environment.portVariable, hnone]
    rfl
  · have htext : env.nonEmpty? "EDGEDB_PORT" = some text := by
      rw [Environment.nonEmpty?, hset, Option.bind_some,
        nonEmpty_of_ne (PortSpec.ne_empty_of_read hread)]
    refine ⟨port, ?_⟩
    rw [PortSpec.ofEnvironment, Environment.portVariable, htext]
    exact hread

/-- **Targets in writing** are the targets of the resolution, wherever the text lists the hosts. -/
theorem Resolution.targets_of_shown {targets : List Target} (hne : targets ≠ [])
    (hmade : ∀ target ∈ targets, ∃ host port, target = Target.ofHost host port)
    (hfree : ∀ target ∈ targets, ',' ∉ target.hostText.toList ∧ ':' ∉ target.hostText.toList)
    {login : String} (hlogin : env.loginUser = some login) (hname : login ≠ "")
    (hport : env.SharesPort) (hread : readDsn args = .ok dsn)
    (hargs : args.port.bind PortSpec.nonEmpty? = none) (hquery : dsn.query.get? "port" = none)
    (htext : (HostSource.of args dsn env).text?
      = some (",".intercalate (targets.map Target.shown))) :
    ∃ r, SessionPlan.resolve args env = .ok r ∧ r.targets = targets := by
  obtain ⟨port, hport⟩ := hport.ofEnvironment
  obtain ⟨credentials, hcredentials⟩ :=
    Credentials.exists_resolve_of_login hlogin hname (printable_of_readDsn hread) args
  have hbase : PortSpec.orOfEnvironment (args.port.bind PortSpec.nonEmpty?) env
      = .ok (.single port) := by
    rw [hargs]
    exact hport
  have haddresses : Addresses.resolve args dsn env
      = .ok (.ofHostList (.ofTargets targets port)) := by
    rw [Addresses.resolve_of_text htext (HostSource.queryPort?_eq_none hquery _), hbase, ok_bind,
      HostList.split_shown hne hfree, map_ok]
  rw [resolve_eq, hread, ok_bind, haddresses, ok_bind, hcredentials, map_ok]
  exact ⟨_, rfl, targetsOf_ofTargets hmade port⟩

/-- **Printed targets resolve back.** Targets whose hosts and paths hold neither a comma nor a colon
are written with commas between them, and the text lists the hosts: either in the environment, or in
a field of the query of a connection string that names no other hosts and no port, in any encoding.
Where the login user has a name and no ports but a shared one come from the environment, either
resolution succeeds with these targets, in their order. -/
theorem printed_targets_resolve {targets : List Target} (hne : targets ≠ [])
    (hmade : ∀ target ∈ targets, ∃ host port, target = Target.ofHost host port)
    (hfree : ∀ target ∈ targets, ',' ∉ target.hostText.toList ∧ ':' ∉ target.hostText.toList)
    {env : Environment} {login : String} (hlogin : env.loginUser = some login) (hname : login ≠ "")
    (hport : env.SharesPort) {args : Arguments}
    (hhosts : args.host.bind HostSpec.nonEmpty? = none)
    (hports : args.port.bind PortSpec.nonEmpty? = none) :
    let text := ",".intercalate (targets.map Target.shown)
    (args.dsn.bind nonEmpty = none → env.get? "EDGEDB_HOST" = some text →
      ∃ r, resolve args env = .ok r ∧ r.targets = targets) ∧
    ∀ (layout : Dsn.Layout) (dsn : Dsn) (n : Nat) (value : Dsn.QueryPiece),
      layout.hostList = [] → Dsn.parse layout.text = .ok dsn → dsn.query.get? "port" = none →
      (∀ field ∈ layout.fields.drop n, Dsn.fieldKey? field ≠ some "host") →
      value.text = text.toList →
      ∃ r, resolve
        { args with dsn := some (layout.insertField n (.field .hostKey value)).text } env = .ok r ∧
        r.targets = targets := by
  intro text
  have htext : text ≠ "" := Target.intercalate_shown_ne_empty hne hmade
  constructor
  · intro hdsn hvariable
    apply Resolution.targets_of_shown hne hmade hfree hlogin hname hport
      (Resolution.readDsn_of_none hdsn) hports rfl
    apply HostSource.text?_of_environment hhosts rfl rfl
    rw [Environment.nonEmpty?, hvariable, Option.bind_some, nonEmpty_of_ne htext]
  · intro layout dsn n value hopen hparse hquery hlater hvalue
    have hentry : Dsn.fieldPair? (Dsn.QueryPiece.field .hostKey value).written
        = some ("host", text) := by
      have hsome : value.text ≠ [] := by
        rw [hvalue, ne_eq, String.toList_eq_nil_iff]
        exact htext
      rw [Dsn.QueryPiece.fieldPair?_field (by decide) hsome, hvalue, String.ofList_toList]
      rfl
    have hlist : dsn.hostList = none := by
      rw [(Dsn.Layout.denotes_of_parse hparse).hostList, if_pos hopen]
    have hread : Resolution.readDsn
        { args with dsn := some (layout.insertField n (.field .hostKey value)).text }
        = .ok { dsn with query := dsn.query.insert "host" text } := by
      rw [Resolution.readDsn, Option.bind_some, nonEmpty_of_ne (Dsn.Layout.text_ne_empty _)]
      dsimp only
      rw [Dsn.Layout.parse_insertField hentry hlater, hparse, map_ok]
    apply Resolution.targets_of_shown hne hmade hfree hlogin hname hport hread hports
    · -- the field of the hosts is none of the ports
      rw [TextMap.get?_insert, if_neg (by decide)]
      exact hquery
    · apply HostSource.text?_of_query
      · exact hhosts
      · exact hlist
      · rw [TextMap.get?_insert, if_pos rfl]

/-- Two TCP targets, one of them without a name, and a socket between them, in the environment and in
a query. The port of the environment stands beside the socket, which keeps its own. -/
theorem printed_targets_resolve_of_socket :
    let targets := [Target.ofHost "h" 1, Target.ofHost "/tmp" 8, Target.ofHost "" 0]
    let env : Environment := ⟨fun name =>
      if name = "EDGEDB_HOST" then some "h:1,/tmp/.s.EDGEDB.8,:0"
      else if name = "EDGEDB_PORT" then some "7" else none, some "me", .unix⟩
    let layout : Dsn.Layout := {
      authority := none
      path := "/app".toList
      query := some "tls=on&user=u".toList
      fragment := none
      path_start := by decide
      path_free := by simp
      query_free := by simp }
    let value := Dsn.QueryPiece.encode "h:1,/tmp/.s.EDGEDB.8,:0".toList
    let dsn := (layout.insertField 1 (.field .hostKey value)).text
    targets = [.tcp "h" 1, .socket "/tmp/.s.EDGEDB.8", .tcp "" 0] ∧
      ",".intercalate (targets.map Target.shown) = "h:1,/tmp/.s.EDGEDB.8,:0" ∧
      env.SharesPort ∧
      (∃ r, resolve {} env = .ok r ∧ r.targets = targets) ∧
      dsn = "edgedb:/app?tls=on&host=h%3A1%2C%2Ftmp%2F.s.EDGEDB.8%2C%3A0&user=u" ∧
      ∃ r, resolve { dsn := some dsn } env = .ok r ∧ r.targets = targets := by
  intro targets env layout value dsn
  have htargets : targets = [.tcp "h" 1, .socket "/tmp/.s.EDGEDB.8", .tcp "" 0] := by decide +kernel
  have htext : ",".intercalate (targets.map Target.shown) = "h:1,/tmp/.s.EDGEDB.8,:0" := by
    decide +kernel
  have hmade : ∀ target ∈ targets, ∃ host port, target = Target.ofHost host port := by
    simp only [targets, List.forall_mem_cons, List.not_mem_nil, false_imp_iff, implies_true,
      and_true]
    exact ⟨⟨"h", 1, rfl⟩, ⟨"/tmp", 8, rfl⟩, ⟨"", 0, rfl⟩⟩
  have hfree : ∀ target ∈ targets,
      ',' ∉ target.hostText.toList ∧ ':' ∉ target.hostText.toList := by decide +kernel
  have hport : env.SharesPort := Or.inr ⟨"7", 7, rfl, rfl⟩
  have hplain : layout.text = "edgedb:/app?tls=on&user=u" := by rfl
  have hparse : Dsn.parse layout.text = .ok {
      database := some "app"
      query := .ofList [("tls", "on"), ("user", "u")] } := by
    rw [hplain]
    rfl
  have hlogin : env.loginUser = some "me" := rfl
  have hhosts : ({} : Arguments).host.bind HostSpec.nonEmpty? = none := rfl
  obtain ⟨hvariable, hquery⟩ := printed_targets_resolve (by decide) hmade hfree hlogin (by decide)
    hport hhosts rfl
  rw [htext] at hvariable hquery
  refine ⟨htargets, htext, hport, hvariable rfl rfl, by rfl, ?_⟩
  exact hquery layout _ 1 value rfl hparse rfl (by decide) (Dsn.QueryPiece.text_encode _)

end SessionPlan
