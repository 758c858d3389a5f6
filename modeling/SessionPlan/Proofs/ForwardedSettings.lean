/-
Server settings, key by key.

Six keys of a query say something about addresses or credentials. They are taken out of it before
anything is forwarded to the server, also where a source of higher rank has settled what they say,
so that a password that was overruled is not sent as a setting. What is left of the query lies under
the settings of the arguments; and where nothing is left, these are passed on as they are, whether
they are absent, empty or full.
-/
import SessionPlan.Proofs.AddressRank

set_option autoImplicit false

namespace SessionPlan

variable {args : Arguments} {dsn : Dsn}

/-! ## Settings at a key -/

def Arguments.setting? (args : Arguments) (key : String) : Option String :=
  args.serverSettings.bind (·.get? key)

def Parameters.setting? (p : Parameters) (key : String) : Option String :=
  p.serverSettings.bind (·.get? key)

/-- What a query forwards at a key: nothing at the six keys that it is read for itself. -/
def Dsn.forwarded? (dsn : Dsn) (key : String) : Option String :=
  if key ∈ ["port", "host", "dbname", "database", "user", "password"] then none
  else dsn.query.get? key

theorem Dsn.get?_eraseAll_reservedKeys (dsn : Dsn) (key : String) :
    (dsn.query.eraseAll Resolution.reservedKeys).get? key = dsn.forwarded? key :=
  TextMap.get?_eraseAll dsn.query Resolution.reservedKeys key

theorem Dsn.isEmpty_eraseAll_reservedKeys_iff :
    (dsn.query.eraseAll Resolution.reservedKeys).isEmpty = true
      ↔ ∀ key, dsn.forwarded? key = none := by
  rw [TextMap.isEmpty_iff]
  simp only [Dsn.get?_eraseAll_reservedKeys]

namespace Resolution

/-! ## Settings of the arguments over those of the query -/

theorem serverSettings_of_forwarded? (h : ∀ key, dsn.forwarded? key = none) :
    serverSettings args dsn = args.serverSettings := by
  rw [serverSettings, if_pos (Dsn.isEmpty_eraseAll_reservedKeys_iff.mpr h)]

theorem exists_serverSettings (args : Arguments) {key : String} (h : dsn.forwarded? key ≠ none) :
    ∃ settings, serverSettings args dsn = some settings := by
  have hsome : ¬ ∀ key, dsn.forwarded? key = none := fun hnone => h (hnone key)
  rw [serverSettings, if_neg (Dsn.isEmpty_eraseAll_reservedKeys_iff.not.mpr hsome)]
  exact ⟨_, rfl⟩

/-- **A lookup in the settings** finds what the arguments say, or else what the query forwards. -/
theorem get?_serverSettings (args : Arguments) (dsn : Dsn) (key : String) :
    (serverSettings args dsn).bind (·.get? key) = (args.setting? key).or (dsn.forwarded? key) := by
  by_cases hnone : ∀ key, dsn.forwarded? key = none
  · rw [serverSettings_of_forwarded? hnone, hnone, Option.or_none, Arguments.setting?]
  · -- something is forwarded, so the two maps are put together
    rw [serverSettings, if_neg (Dsn.isEmpty_eraseAll_reservedKeys_iff.not.mpr hnone),
      Option.bind_some, TextMap.get?_override, dsn.get?_eraseAll_reservedKeys, Arguments.setting?]
    cases args.serverSettings with
    | none => rfl
    | some explicit => rfl

end Resolution

/-! ## Settings of a resolution -/

/-- **Server settings by key.** Without a connection string, or where its query forwards nothing, the
settings of a resolution are those of the arguments. Otherwise there is a map, and at every key it
holds what the arguments say, or else what the query forwards. So at the six keys that a query is
read for there is only what the arguments put there, whatever settled their values. -/
theorem server_settings_by_key {args : Arguments} {env : Environment} {r : Resolution}
    (h : resolve args env = .ok r) :
    (args.dsn.bind nonEmpty = none → r.parameters.serverSettings = args.serverSettings) ∧
    ∃ dsn, Resolution.readDsn args = .ok dsn ∧
      ((∀ key, dsn.forwarded? key = none) →
        r.parameters.serverSettings = args.serverSettings) ∧
      ((∃ key, dsn.forwarded? key ≠ none) → ∃ settings,
        r.parameters.serverSettings = some settings ∧
        ∀ key, settings.get? key = (args.setting? key).or (dsn.forwarded? key)) ∧
      ∀ key ∈ ["port", "host", "dbname", "database", "user", "password"],
        r.parameters.setting? key = args.setting? key := by
  obtain ⟨dsn, addresses, credentials, hdsn, -, -, rfl⟩ := Resolution.stages_of_resolve h
  refine ⟨?_, dsn, hdsn, Resolution.serverSettings_of_forwarded?, ?_, ?_⟩
  · intro hnone
    have hempty : dsn = {} := by
      rw [Resolution.readDsn_of_none hnone] at hdsn
      exact (Except.ok.inj hdsn).symm
    apply Resolution.serverSettings_of_forwarded?
    intro key
    rw [hempty, ← Dsn.get?_eraseAll_reservedKeys]
    rfl
  · rintro ⟨key, hkey⟩
    obtain ⟨settings, hsettings⟩ := Resolution.exists_serverSettings args hkey
    refine ⟨settings, hsettings, ?_⟩
    intro key
    rw [← Resolution.get?_serverSettings, hsettings, Option.bind_some]
  · intro key hkey
    have hreserved : dsn.forwarded? key = none := by
      rw [Dsn.forwarded?, if_pos hkey]
    show (Resolution.serverSettings args dsn).bind (·.get? key) = _
    rw [Resolution.get?_serverSettings, hreserved, Option.or_none]

/-- A password and a user in a query, both overruled, beside two settings of which the arguments hold
one as well: neither of the two is forwarded. -/
theorem server_settings_by_key_of_overruled :
    let args : Arguments := {
      dsn := some "edgedb://h/?password=p&tls=on&user=u&k=1"
      user := some "me"
      password := some "x"
      serverSettings := some (.ofList [("k", "v")]) }
    ∃ r settings, resolve args ⟨fun _ => none, none, .unix⟩ = .ok r ∧
      r.parameters.password = some "x" ∧
      r.parameters.serverSettings = some settings ∧
      settings.get? "k" = some "v" ∧ settings.get? "tls" = some "on" ∧
      r.parameters.setting? "password" = none ∧ r.parameters.setting? "user" = none := by
  intro args
  obtain ⟨r, hr⟩ : ∃ r, resolve args ⟨fun _ => none, none, .unix⟩ = .ok r := ⟨_, rfl⟩
  have hpassword : (resolve args ⟨fun _ => none, none, .unix⟩).map (·.parameters.password)
      = .ok (some "x") := by rfl
  rw [hr, map_ok] at hpassword
  obtain ⟨-, dsn, hdsn, -, hsettings, hreserved⟩ := server_settings_by_key hr
  have hread : Resolution.readDsn args = .ok {
      hostList := some "h"
      query := .ofList [("password", "p"), ("tls", "on"), ("user", "u"), ("k", "1")] } := by rfl
  rw [hread] at hdsn
  cases hdsn
  obtain ⟨settings, hsome, hlookup⟩ := hsettings ⟨"tls", by decide +kernel⟩
  exact ⟨r, settings, hr, Except.ok.inj hpassword, hsome, hlookup "k", hlookup "tls",
    hreserved "password" (by decide), hreserved "user" (by decide)⟩

end SessionPlan
