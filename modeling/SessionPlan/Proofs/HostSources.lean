/-
The sources of a host list agree.

A text that lists hosts may stand in the authority of a connection string, in a field of its query
or in the environment. Each of the three is offered at a point of its own, but what is done with the
text is the same: it is split over the ports of the arguments or of the environment. A query without
a port does not come in between. Nothing beside the addresses looks at where the hosts were listed,
so the whole resolution is the same, its fault included.
-/
import SessionPlan.Proofs.AddressRank
import SessionPlan.Proofs.LayoutChange

set_option autoImplicit false

namespace SessionPlan

variable {args : Arguments} {dsn dsn' : Dsn} {env env' : Environment}

/-! ## What is asked of an environment -/

/-- Of all variables only one decides on the ports. -/
theorem PortSpec.orOfEnvironment_congr (given : Option PortSpec)
    (h : env.get? Environment.portVariable = env'.get? Environment.portVariable) :
    PortSpec.orOfEnvironment given env = PortSpec.orOfEnvironment given env' := by
  unfold PortSpec.orOfEnvironment PortSpec.ofEnvironment Environment.nonEmpty?
  rw [h]

/-- Credentials depend on three variables and the login user. -/
theorem Credentials.resolve_congr_environment
    (huser : env.get? Environment.userVariable = env'.get? Environment.userVariable)
    (hpassword : env.get? Environment.passwordVariable = env'.get? Environment.passwordVariable)
    (hdatabase : env.get? Environment.databaseVariable = env'.get? Environment.databaseVariable)
    (hlogin : env.loginUser = env'.loginUser) :
    Credentials.resolve args dsn env = Credentials.resolve args dsn env' := by
  unfold Credentials.resolve Credentials.user? Credentials.password? Credentials.database?
    Environment.nonEmpty?
  rw [huser, hpassword, hdatabase, hlogin]

/-! ## What is asked of a connection string -/

/-- Credentials depend on three parts and four keys of the query. -/
theorem Credentials.resolve_congr_dsn (huser : dsn.user = dsn'.user)
    (hpassword : dsn.password = dsn'.password) (hdatabase : dsn.database = dsn'.database)
    (hquery : ∀ key ∈ ["user", "password", "database", "dbname"],
      dsn.query.get? key = dsn'.query.get? key) (args : Arguments) (env : Environment) :
    Credentials.resolve args dsn env = Credentials.resolve args dsn' env := by
  unfold Credentials.resolve Credentials.user? Credentials.password? Credentials.database?
  rw [huser, hpassword, hdatabase, hquery "user" (by decide), hquery "password" (by decide),
    hquery "database" (by decide), hquery "dbname" (by decide)]

/-- Server settings depend on the keys that nothing else takes. -/
theorem Resolution.serverSettings_congr_dsn
    (hquery : ∀ key, key ∉ Resolution.reservedKeys → dsn.query.get? key = dsn'.query.get? key)
    (args : Arguments) :
    Resolution.serverSettings args dsn = Resolution.serverSettings args dsn' := by
  have herase : dsn.query.eraseAll Resolution.reservedKeys
      = dsn'.query.eraseAll Resolution.reservedKeys := by
    apply TextMap.ext_get?
    intro key
    rw [TextMap.get?_eraseAll, TextMap.get?_eraseAll]
    by_cases hkey : key ∈ Resolution.reservedKeys
    · rw [if_pos hkey, if_pos hkey]
    · rw [if_neg hkey, if_neg hkey, hquery key hkey]
  unfold Resolution.serverSettings
  rw [herase]

/-! ## Beside the hosts -/

/-- Two connection strings say the same about everything but the hosts. -/
structure Dsn.SameBesideHosts (dsn dsn' : Dsn) : Prop where
  user : dsn.user = dsn'.user
  password : dsn.password = dsn'.password
  database : dsn.database = dsn'.database
  query : ∀ key, key ≠ "host" → dsn.query.get? key = dsn'.query.get? key

namespace Dsn.SameBesideHosts

theorem withHostList (dsn : Dsn) (hostList : Option String) :
    SameBesideHosts { dsn with hostList } dsn :=
  ⟨rfl, rfl, rfl, fun _ _ => rfl⟩

theorem withHosts (dsn : Dsn) (text : String) :
    SameBesideHosts
      { dsn with query := (TextMap.empty.insert "host" text).override dsn.query } dsn := by
  refine ⟨rfl, rfl, rfl, ?_⟩
  intro key hne
  rw [TextMap.get?_override, TextMap.get?_insert, if_neg hne, TextMap.get?_empty, Option.or_none]

theorem credentials_eq (h : dsn.SameBesideHosts dsn') (args : Arguments) (env : Environment) :
    Credentials.resolve args dsn env = Credentials.resolve args dsn' env := by
  apply Credentials.resolve_congr_dsn h.user h.password h.database
  intro key hkey
  apply h.query
  rintro rfl
  exact absurd hkey (by decide)

theorem serverSettings_eq (h : dsn.SameBesideHosts dsn') (args : Arguments) :
    Resolution.serverSettings args dsn = Resolution.serverSettings args dsn' := by
  apply Resolution.serverSettings_congr_dsn
  intro key hkey
  -- the key of the hosts is a reserved one
  apply h.query
  rintro rfl
  exact hkey (by decide)

end Dsn.SameBesideHosts

/-! ## Listed hosts -/

namespace HostSource

/-- The text in which a source lists the hosts. -/
def text? : HostSource → Option String
  | authority text | query text | environment text => some text
  | _ => none

theorem of_authority {text : String} (hargs : args.host.bind HostSpec.nonEmpty? = none)
    (h : dsn.hostList = some text) : of args dsn env = authority text := by
  rw [of, hargs, h]
  rfl

theorem text?_of_authority {text : String} (hargs : args.host.bind HostSpec.nonEmpty? = none)
    (h : dsn.hostList = some text) : (of args dsn env).text? = some text := by
  rw [of_authority hargs h]
  rfl

theorem text?_of_query {text : String} (hargs : args.host.bind HostSpec.nonEmpty? = none)
    (hlist : dsn.hostList = none) (h : dsn.query.get? "host" = some text) :
    (of args dsn env).text? = some text := by
  rw [of, hargs, hlist, h]
  rfl

theorem text?_of_environment {text : String} (hargs : args.host.bind HostSpec.nonEmpty? = none)
    (hlist : dsn.hostList = none) (hhost : dsn.query.get? "host" = none)
    (h : env.nonEmpty? "EDGEDB_HOST" = some text) : (of args dsn env).text? = some text := by
  rw [of, hargs, hlist, hhost, h]
  rfl

theorem queryPort?_eq_none (h : dsn.query.get? "port" = none) (source : HostSource) :
    source.queryPort? dsn = none := by
  unfold queryPort?
  split
  · rfl
  · exact h

theorem settle_of_text? {source : HostSource} {text : String} (h : source.text? = some text)
    (platform : Platform) (base : PortSpec) :
    source.settle platform base = (HostList.split text base).map Addresses.ofHostList := by
  cases source with
  | arguments hosts => cases h
  | platform => cases h
  | authority text | query text | environment text =>
    cases h
    rfl

end HostSource

/-- **Listed hosts** are split over the ports of the arguments or of the environment, wherever they
were listed. -/
theorem Addresses.resolve_of_text {text : String}
    (htext : (HostSource.of args dsn env).text? = some text)
    (hport : (HostSource.of args dsn env).queryPort? dsn = none) :
    Addresses.resolve args dsn env
      = PortSpec.orOfEnvironment (args.port.bind PortSpec.nonEmpty?) env >>= fun base =>
          (HostList.split text base).map Addresses.ofHostList := by
  rw [resolve_eq_byRank, byRank, basePort_eq, hport, AddressDraft.queriedPort_none, ok_bind]
  apply bind_congr
  intro base
  exact HostSource.settle_of_text? htext env.platform base

/-- Two connection strings that list the same hosts and say the same beside them resolve alike,
whatever the environments say about hosts. -/
theorem Resolution.ofDsn_eq_of_text {text : String} {host host' : Option String}
    (hsame : dsn.SameBesideHosts dsn') (hport : dsn.query.get? "port" = none)
    (htext : (HostSource.of args dsn (env.withVariable "EDGEDB_HOST" host)).text? = some text)
    (htext' : (HostSource.of args dsn' (env.withVariable "EDGEDB_HOST" host')).text? = some text) :
    ofDsn args dsn (env.withVariable "EDGEDB_HOST" host)
      = ofDsn args dsn' (env.withVariable "EDGEDB_HOST" host') := by
  have hport' : dsn'.query.get? "port" = none := by
    rw [← hsame.query "port" (by decide)]
    exact hport
  -- no variable but that of the hosts was changed
  have henv : ∀ name, name ≠ "EDGEDB_HOST" →
      (env.withVariable "EDGEDB_HOST" host).get? name
        = (env.withVariable "EDGEDB_HOST" host').get? name := by
    intro name hne
    simp [hne]
  apply ofDsn_congr
  · rw [Addresses.resolve_of_text htext (HostSource.queryPort?_eq_none hport _),
      Addresses.resolve_of_text htext' (HostSource.queryPort?_eq_none hport' _),
      PortSpec.orOfEnvironment_congr _ (henv "EDGEDB_PORT" (by decide))]
  · rw [hsame.credentials_eq]
    exact Credentials.resolve_congr_environment (henv "EDGEDB_USER" (by decide))
      (henv "EDGEDB_PASSWORD" (by decide)) (henv "EDGEDB_DATABASE" (by decide)) rfl
  · exact hsame.serverSettings_eq args

/-! ## Three places for one list -/

section

variable {text : String} (hargs : args.host.bind HostSpec.nonEmpty? = none)
  (hlist : dsn.hostList = none) (hhost : dsn.query.get? "host" = none)
  (hport : dsn.query.get? "port" = none) (hne : text ≠ "")

include hargs hlist hhost hport hne

/-- A host list in the authority is one in the environment. -/
theorem Resolution.ofDsn_withHostList (host : Option String) :
    ofDsn args { dsn with hostList := some text } (env.withVariable "EDGEDB_HOST" host)
      = ofDsn args dsn (env.withVariable "EDGEDB_HOST" (some text)) := by
  have hsame := Dsn.SameBesideHosts.withHostList dsn (some text)
  apply ofDsn_eq_of_text hsame hport
  · exact HostSource.text?_of_authority hargs rfl
  · apply HostSource.text?_of_environment hargs hlist hhost
    rw [Environment.nonEmpty?_withVariable, Option.bind_some, nonEmpty, if_neg hne]

/-- A host list in the query is one in the environment. -/
theorem Resolution.ofDsn_withHosts (host : Option String) :
    ofDsn args { dsn with query := (TextMap.empty.insert "host" text).override dsn.query }
        (env.withVariable "EDGEDB_HOST" host)
      = ofDsn args dsn (env.withVariable "EDGEDB_HOST" (some text)) := by
  have hsame := Dsn.SameBesideHosts.withHosts dsn text
  apply ofDsn_eq_of_text hsame ((hsame.query "port" (by decide)).trans hport)
  · apply HostSource.text?_of_query hargs
    · exact hlist
    · rw [TextMap.get?_override, hhost, TextMap.get?_insert, if_pos rfl, Option.none_or]
  · apply HostSource.text?_of_environment hargs hlist hhost
    rw [Environment.nonEmpty?_withVariable, Option.bind_some, nonEmpty, if_neg hne]

end

/-- A connection string is read first, and what it holds is all that is known of it after that. -/
theorem Resolution.resolve_of_dsn {text : String} (hne : text ≠ "") (args : Arguments)
    (env : Environment) :
    SessionPlan.resolve { args with dsn := some text } env
      = Dsn.parse text >>= fun dsn => ofDsn args dsn env := by
  have hread : readDsn { args with dsn := some text } = Dsn.parse text := by
    rw [readDsn, Option.bind_some, nonEmpty, if_neg hne]
  rw [resolve_eq_ofDsn, hread]
  rfl

theorem Resolution.resolve_of_layout (args : Arguments) (layout : Dsn.Layout) (env : Environment) :
    SessionPlan.resolve { args with dsn := some layout.text } env
      = Dsn.parse layout.text >>= fun dsn => ofDsn args dsn env :=
  resolve_of_dsn layout.text_ne_empty args env

/-- **Three places for a host list.** A text that lists hosts may stand in the authority of a
connection string; in a first field of its query, in any encoding; or in the environment. The three
resolutions are equal, whether they succeed or fail, as long as the arguments name no host and no
other field of the query names hosts or ports. In the first two the environment may list any other
hosts. -/
theorem host_sources_agree {layout : Dsn.Layout} (hauthority : layout.authority.isSome = true)
    (hopen : layout.hostList = [])
    (hkeys : ∀ field ∈ layout.fields, ∀ key ∈ ["host", "port"], Dsn.fieldKey? field ≠ some key)
    {hosts : List Char} (hne : hosts ≠ []) (hfree : ∀ c ∈ ['@', '/', '?', '#'], c ∉ hosts)
    {value : Dsn.QueryPiece} (hvalue : value.text = hosts) {args : Arguments}
    (hargs : args.host.bind HostSpec.nonEmpty? = none) (env : Environment)
    (host₁ host₂ : Option String) :
    resolve { args with dsn := some (layout.withHostList hosts hfree).text }
        (env.withVariable "EDGEDB_HOST" host₁)
      = resolve { args with dsn := some layout.text }
        (env.withVariable "EDGEDB_HOST" (some (String.ofList hosts))) ∧
    resolve { args with dsn := some (layout.addField (.field .hostKey value)).text }
        (env.withVariable "EDGEDB_HOST" host₂)
      = resolve { args with dsn := some layout.text }
        (env.withVariable "EDGEDB_HOST" (some (String.ofList hosts))) := by
  have hentry : Dsn.fieldPair? (Dsn.QueryPiece.field .hostKey value).written
      = some ("host", String.ofList hosts) := by
    rw [Dsn.QueryPiece.fieldPair?_field (by decide) (by rw [hvalue]; exact hne), hvalue]
    rfl
  simp only [Resolution.resolve_of_layout, Dsn.Layout.parse_withHostList hauthority hne hfree,
    Dsn.Layout.parse_addField hentry]
  -- a string with a fault has it in all three places
  cases hparse : Dsn.parse layout.text with
  | error e => exact ⟨rfl, rfl⟩
  | ok dsn =>
    have htext : String.ofList hosts ≠ "" := String.ofList_eq_empty_iff.not.mpr hne
    have hlist : dsn.hostList = none := by
      rw [(Dsn.Layout.denotes_of_parse hparse).hostList, if_pos hopen]
    have hnone : ∀ key ∈ ["host", "port"], dsn.query.get? key = none := by
      intro key hkey
      exact Dsn.Layout.get?_query_of_parse hparse fun field hfield => hkeys field hfield key hkey
    have hhost := hnone "host" (by decide)
    have hport := hnone "port" (by decide)
    exact ⟨Resolution.ofDsn_withHostList hargs hlist hhost hport htext host₁,
      Resolution.ofDsn_withHosts hargs hlist hhost hport htext host₂⟩

/-- Hosts with and without a port and one without a name, in all three places; the ports that are
open are those of the environment. -/
theorem host_sources_agree_of_ports :
    let layout : Dsn.Layout := {
      authority := some {
        userInfo := some ⟨"me".toList, some "a@b%2F".toList, by simp, by simp⟩
        hostList := []
        hostList_free := by simp }
      path := "/app".toList
      query := some "tls=on&Host=h".toList
      fragment := some "?".toList
      path_start := by decide
      path_free := by simp
      query_free := by simp }
    let hosts := "a b:1,,c+d".toList
    let env : Environment :=
      ⟨fun name => if name = "EDGEDB_PORT" then some "7,8,9" else none, none, .unix⟩
    let value := Dsn.QueryPiece.encode hosts
    layout.text = "edgedb://me:a@b%2F@/app?tls=on&Host=h#?" ∧
    value.written = "a+b%3A1%2C%2Cc%2Bd".toList ∧
    resolve { dsn := some (layout.withHostList hosts (by simp [hosts])).text }
        (env.withVariable "EDGEDB_HOST" none)
      = resolve { dsn := some layout.text }
        (env.withVariable "EDGEDB_HOST" (some "a b:1,,c+d")) ∧
    resolve { dsn := some (layout.addField (.field .hostKey value)).text }
        (env.withVariable "EDGEDB_HOST" (some "x"))
      = resolve { dsn := some layout.text }
        (env.withVariable "EDGEDB_HOST" (some "a b:1,,c+d")) ∧
    (resolve { dsn := some layout.text }
      (env.withVariable "EDGEDB_HOST" (some "a b:1,,c+d"))).map (·.targets)
      = .ok [.tcp "a b" 1, .tcp "" 8, .tcp "c+d" 9] := by
  intro layout hosts env value
  have hkeys : ∀ field ∈ layout.fields, ∀ key ∈ ["host", "port"],
      Dsn.fieldKey? field ≠ some key := by decide
  have hopen : layout.hostList = [] := rfl
  have hfree : ∀ c ∈ ['@', '/', '?', '#'], c ∉ hosts := by simp [hosts]
  have hvalue : value.text = hosts := Dsn.QueryPiece.text_encode hosts
  have hargs : ({} : Arguments).host.bind HostSpec.nonEmpty? = none := rfl
  obtain ⟨hauthority, hquery⟩ := host_sources_agree rfl hopen hkeys (by decide) hfree hvalue hargs
    env none (some "x")
  have htext : layout.text = "edgedb://me:a@b%2F@/app?tls=on&Host=h#?" := by rfl
  refine ⟨htext, by rfl, hauthority, hquery, ?_⟩
  rw [htext]
  rfl

end SessionPlan
