/-
A resolution, fed back as arguments, resolves to itself.

The arguments that repeat a resolution name the host of each target, or the path of its socket, with
a port beside it, and copy every parameter. Such arguments leave nothing for an environment to
decide, except for a password where there is none. Two facts make the targets come back: a path that
was made for a socket names a socket file, so it is left alone whatever the port; and a host that
became a TCP target does not begin with a slash, so it becomes one again.
-/
import SessionPlan.Proofs.CredentialRank

set_option autoImplicit false

namespace SessionPlan

/-! ## Targets -/

namespace Target

/-- The host that names a target: that of a TCP target, or the path of a socket. -/
def hostText : Target → String
  | socket path => path
  | tcp host _ => host

/-- Whether a port may stand beside the host of a target: its own port, or any beside a socket. -/
def Admits : Target → UInt16 → Prop
  | socket _, _ => True
  | tcp _ own, port => port = own

/-- A socket path names a socket file. -/
theorem holds_socketPath (directory : List Char) (port : UInt16) :
    Text.holds socketMarker.toList (socketPath directory port) = true := by
  rw [Text.holds_iff, socketPath]
  exact ⟨_, portDigits port, rfl⟩

/-- A socket path begins like its directory. -/
theorem head?_socketPath {directory : List Char} (h : directory.head? = some '/') (port : UInt16) :
    (socketPath directory port).head? = some '/' := by
  cases directory with
  | nil => cases h
  | cons c r => exact h

/-- A path that begins with a slash and names a socket file is taken as it is. -/
theorem ofHost_of_holds {path : String} (hslash : path.toList.head? = some '/')
    (hmarker : Text.holds socketMarker.toList path.toList = true) (port : UInt16) :
    ofHost path port = socket path := by
  rw [ofHost, if_pos hslash, if_pos hmarker]

/-- **A target names itself.** The host of a target, beside a port that it admits, gives the target
again. -/
theorem ofHost_hostText {host : String} {own port : UInt16}
    (h : (ofHost host own).Admits port) :
    ofHost (ofHost host own).hostText port = ofHost host own := by
  by_cases hslash : host.toList.head? = some '/'
  · by_cases hmarker : Text.holds socketMarker.toList host.toList = true
    · rw [ofHost_of_holds hslash hmarker own]
      exact ofHost_of_holds hslash hmarker port
    · -- a directory: the path of its socket names a socket file, whatever its port was
      have hsocket : ofHost host own = socket (String.ofList (socketPath host.toList own)) := by
        rw [ofHost, if_pos hslash, if_neg hmarker]
      rw [hsocket]
      apply ofHost_of_holds
      · rw [hostText, String.toList_ofList]
        exact head?_socketPath hslash own
      · rw [hostText, String.toList_ofList]
        exact holds_socketPath host.toList own
  · -- a TCP host admits its own port only
    have htcp : ∀ port, ofHost host port = tcp host port := fun port => by
      rw [ofHost, if_neg hslash]
    rw [htcp] at h ⊢
    rw [hostText, htcp, show port = own from h]

/-- The targets of hosts and ports come back from their own hosts, beside ports that they admit. -/
theorem map_ofHost_hostText {hosts : List (String × UInt16)} {ports : List UInt16}
    (h : List.Forall₂ Admits (hosts.map fun a => ofHost a.1 a.2) ports) :
    (((hosts.map fun a => ofHost a.1 a.2).map hostText).zip ports).map (fun a => ofHost a.1 a.2)
      = hosts.map fun a => ofHost a.1 a.2 := by
  -- each target takes the port beside it, so hosts and ports are gone through together
  induction hosts generalizing ports with
  | nil => rfl
  | cons host hosts ih =>
    cases h with
    | cons hport hports =>
      simp only [List.map_cons, List.zip_cons_cons, ofHost_hostText hport, ih hports]

end Target

/-! ## Explicit arguments -/

theorem HostSpec.nonEmpty?_list {hosts : List String} (h : hosts ≠ []) :
    (list hosts).nonEmpty? = some (list hosts) := by
  rw [nonEmpty?, isEmpty]
  cases hosts with
  | nil => exact absurd rfl h
  | cons host hosts => rfl

/-- Hosts and ports that the arguments name leave nothing to the connection string or to the
environment. -/
theorem Addresses.resolve_of_arguments {args : Arguments} {hosts : HostSpec} {ports : PortSpec}
    (hhosts : args.host.bind HostSpec.nonEmpty? = some hosts)
    (hports : args.port.bind PortSpec.nonEmpty? = some ports) (dsn : Dsn) (env : Environment) :
    Addresses.resolve args dsn env
      = (ports.forHosts hosts.hosts.length).map fun each => ⟨hosts.hosts, each, hosts.hosts⟩ := by
  have hsource : HostSource.of args dsn env = .arguments hosts.hosts := by
    rw [HostSource.of, hhosts]
    rfl
  rw [Addresses.resolve_eq_byRank, Addresses.byRank, hsource, HostSource.basePort, hports]
  rfl

theorem nonEmpty_of_ne {s : String} (h : s ≠ "") : nonEmpty s = some s := by
  rw [nonEmpty, if_neg h]

/-- A user and a database with a name are all that credentials need. -/
theorem Credentials.resolve_of_some {args : Arguments} {dsn : Dsn} {env : Environment}
    {user database : String} (huser : Credentials.user? args dsn env = some user)
    (hdatabase : Credentials.database? args dsn env = some database) (hne : database ≠ "") :
    Credentials.resolve args dsn env
      = .ok ⟨user, Credentials.password? args dsn env, database⟩ := by
  rw [Credentials.resolve, huser]
  dsimp only
  rw [hdatabase, Option.getD_some, if_neg hne]

/-! ## Feeding back -/

namespace Resolution

/-- The arguments that repeat a resolution, with the given ports beside the hosts of its targets. -/
def feedback (r : Resolution) (ports : List UInt16) : Arguments where
  dsn := none
  host := some (.list (r.targets.map Target.hostText))
  port := some (.list ports)
  user := some r.parameters.user
  password := r.parameters.password
  database := some r.parameters.database
  connectTimeout := r.parameters.connectTimeout
  serverSettings := r.parameters.serverSettings

/-- The credentials of a fed-back resolution are its own. -/
theorem credentials_feedback {r : Resolution} (ports : List UInt16) (huser : r.parameters.user ≠ "")
    (hdatabase : r.parameters.database ≠ "") {env : Environment}
    (hpassword : r.parameters.password ≠ none ∨ env.get? "EDGEDB_PASSWORD" = none) :
    Credentials.resolve (r.feedback ports) {} env
      = .ok ⟨r.parameters.user, r.parameters.password, r.parameters.database⟩ := by
  have huser' : Credentials.user? (r.feedback ports) {} env = some r.parameters.user := by
    rw [Credentials.user?, feedback, Option.bind_some, nonEmpty_of_ne huser, Option.some_or]
  have hdatabase' :
      Credentials.database? (r.feedback ports) {} env = some r.parameters.database := by
    rw [Credentials.database?, feedback, Option.bind_some, nonEmpty_of_ne hdatabase, Option.some_or]
  have hpassword' : Credentials.password? (r.feedback ports) {} env = r.parameters.password := by
    -- the environment is asked only where there is no password
    show r.parameters.password.or (env.get? "EDGEDB_PASSWORD") = r.parameters.password
    cases h : r.parameters.password with
    | some password => rfl
    | none =>
      rcases hpassword with hne | hunset
      · exact absurd h hne
      · rw [hunset]
        rfl
  rw [Credentials.resolve_of_some huser' hdatabase' hdatabase, hpassword']

/-- The parameters of a fed-back resolution are its own: nothing stands in a query. -/
theorem parametersOf_feedback (r : Resolution) (ports : List UInt16) :
    parametersOf (r.feedback ports) {}
      ⟨r.parameters.user, r.parameters.password, r.parameters.database⟩ = r.parameters := rfl

end Resolution

/-- **Resolution is a fixpoint.** The arguments that repeat a resolution resolve to the same
targets, in the same order, and to the same parameters, in whatever environment; only where there
was no password may none be found there either. -/
theorem resolve_feedback {args : Arguments} {env : Environment} {r : Resolution}
    (h : resolve args env = .ok r) (huser : r.parameters.user ≠ "") {ports : List UInt16}
    (hports : List.Forall₂ Target.Admits r.targets ports) (env' : Environment)
    (hpassword : r.parameters.password ≠ none ∨ env'.get? "EDGEDB_PASSWORD" = none) :
    resolve (r.feedback ports) env'
      = .ok { r with authHosts := r.targets.map Target.hostText } := by
  obtain ⟨dsn, addresses, credentials, -, haddresses, hcredentials, hr⟩ :=
    Resolution.stages_of_resolve h
  have htargets : r.targets = Resolution.targetsOf addresses := by rw [hr]
  have hdatabase : r.parameters.database ≠ "" := by
    rw [hr]
    exact Credentials.database_ne_empty hcredentials
  -- what is fed back counts as given: there is a host, and a port for each
  have hne : r.targets.map Target.hostText ≠ [] := by
    rw [htargets, ne_eq, List.map_eq_nil_iff]
    exact Resolution.targetsOf_ne_nil haddresses
  have hlen : ports.length = (r.targets.map Target.hostText).length := by
    rw [List.length_map, hports.length_eq]
  have hhosts : (r.feedback ports).host.bind HostSpec.nonEmpty?
      = some (.list (r.targets.map Target.hostText)) := HostSpec.nonEmpty?_list hne
  have hspec : (r.feedback ports).port.bind PortSpec.nonEmpty? = some (.list ports) := by
    refine PortSpec.nonEmpty?_eq_some_iff.mpr ⟨rfl, ?_⟩
    cases ports with
    | nil => exact absurd (List.length_eq_zero_iff.mp hlen.symm) hne
    | cons port ports => rfl
  have hsettled : Addresses.resolve (r.feedback ports) {} env'
      = .ok ⟨r.targets.map Target.hostText, ports, r.targets.map Target.hostText⟩ := by
    rw [Addresses.resolve_of_arguments hhosts hspec, HostSpec.hosts, PortSpec.forHosts_list hlen,
      map_ok]
  have hback : ((r.targets.map Target.hostText).zip ports).map (fun a => Target.ofHost a.1 a.2)
      = r.targets := by
    rw [htargets] at hports ⊢
    exact Target.map_ofHost_hostText hports
  rw [Resolution.resolve_eq]
  show Addresses.resolve (r.feedback ports) {} env' >>= _ = _
  rw [hsettled, ok_bind, Resolution.credentials_feedback ports huser hdatabase hpassword, map_ok,
    Resolution.targetsOf, hback, Resolution.parametersOf_feedback]

/-- A TCP target and a socket, named in a query, resolve to themselves where every variable but the
password says something else; the port beside the socket is of no account. -/
theorem resolve_feedback_of_query :
    let r : Resolution := {
      targets := [.tcp "h" 1, .socket "/tmp/.s.EDGEDB.8"]
      parameters := {
        user := "me"
        password := none
        database := "app"
        connectTimeout := none
        serverSettings := some (.ofList [("tls", "on")]) }
      authHosts := ["h", "/tmp"] }
    let env' : Environment :=
      ⟨fun name => if name = "EDGEDB_PASSWORD" then none else some "x", some "you", .windows⟩
    resolve { dsn := some "edgedb://me@/app?host=h:1,/tmp&port=7,8&tls=on" }
        ⟨fun _ => none, none, .unix⟩ = .ok r ∧
      resolve (r.feedback [1, 9]) env' = .ok { r with authHosts := ["h", "/tmp/.s.EDGEDB.8"] } := by
  intro r env'
  have h : resolve { dsn := some "edgedb://me@/app?host=h:1,/tmp&port=7,8&tls=on" }
      ⟨fun _ => none, none, .unix⟩ = .ok r := by rfl
  exact ⟨h, resolve_feedback h (by decide) (.cons rfl (.cons trivial .nil)) env' (Or.inr rfl)⟩

end SessionPlan
