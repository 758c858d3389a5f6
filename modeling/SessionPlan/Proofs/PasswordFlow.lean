/-
Where a password goes.

A password may come from the arguments, from the environment, from a field of the query or from the
user information of a connection string. Whichever source holds it, and whether or not a source of
higher rank overrules it, its text reaches one place only: the password of the parameters. Two runs
that differ in that text therefore agree on everything else, and on how the parameters are shown.

The argument compares the two runs stage by stage. No stage but the last reads a password, so all
that has to be known of the inputs is that those stages see the same; each source is then one
instance of that.
-/
import SessionPlan.Proofs.EmptyVariables
import SessionPlan.Proofs.HostSources
import SessionPlan.Proofs.PasswordPlaces

set_option autoImplicit false

namespace SessionPlan

variable {args args' : Arguments} {dsn dsn' : Dsn} {env env' : Environment}

/-! ## How parameters are shown -/

/-- Two sets of parameters are alike in all that is shown: the password only in whether there is
one. -/
structure Parameters.SameShown (p p' : Parameters) : Prop where
  user : p.user = p'.user
  password : p.password.isSome = p'.password.isSome
  database : p.database = p'.database
  connectTimeout : p.connectTimeout = p'.connectTimeout
  serverSettings : p.serverSettings = p'.serverSettings

theorem Parameters.SameShown.fields_eq {p p' : Parameters} (h : p.SameShown p') :
    p.fields = p'.fields := by
  have hpresent := h.password
  unfold Parameters.fields
  rw [h.user, h.database, h.connectTimeout, h.serverSettings]
  cases hp : p.password with
  | none =>
    have hp' : p'.password = none := by simpa [hp] using hpresent
    rw [hp']
  | some password =>
    obtain ⟨password', hp'⟩ : ∃ password', p'.password = some password' := by
      rw [← Option.isSome_iff_exists, ← hpresent, hp, Option.isSome_some]
    rw [hp']

theorem Parameters.SameShown.line_eq {p p' : Parameters} (h : p.SameShown p') :
    p.line = p'.line := by
  rw [Parameters.line, h.fields_eq, Parameters.line]

theorem Parameters.SameShown.block_eq {p p' : Parameters} (h : p.SameShown p') :
    p.block = p'.block := by
  rw [Parameters.block, h.fields_eq, Parameters.block]

/-- Two resolutions agree beside the text of their passwords. -/
structure Resolution.SameBesidePassword (r r' : Resolution) : Prop where
  targets : r.targets = r'.targets
  authHosts : r.authHosts = r'.authHosts
  shown : r.parameters.SameShown r'.parameters

/-! ## Two runs, stage by stage -/

/-- What two runs have to share for them to differ in a password only. -/
structure Resolution.SeesSame (args args' : Arguments) (dsn dsn' : Dsn) (env env' : Environment) :
    Prop where
  addresses : Addresses.resolve args dsn env = Addresses.resolve args' dsn' env'
  user : Credentials.user? args dsn env = Credentials.user? args' dsn' env'
  database : Credentials.database? args dsn env = Credentials.database? args' dsn' env'
  connectTimeout : args.connectTimeout = args'.connectTimeout
  serverSettings : Resolution.serverSettings args dsn = Resolution.serverSettings args' dsn'

namespace Resolution

/-- **Nothing but the password differs** where all else that is read is the same. -/
theorem SeesSame.ofDsn_eq (h : SeesSame args args' dsn dsn' env env') :
    ofDsn args' dsn' env' = (ofDsn args dsn env).map fun r =>
      r.withPassword (Credentials.password? args' dsn' env') := by
  unfold ofDsn
  rw [← h.addresses, map_of_bind]
  apply bind_congr
  intro addresses
  unfold Credentials.resolve
  rw [← h.user, ← h.database]
  cases Credentials.user? args dsn env with
  | none => rfl
  | some user =>
    by_cases hempty : (Credentials.database? args dsn env).getD user = ""
    · simp only [if_pos hempty]
      rfl
    · simp only [if_neg hempty, map_ok]
      unfold parametersOf withPassword
      rw [h.connectTimeout, h.serverSettings]

/-- Two runs that both hold a password, or both lack one, are alike beside it. -/
theorem SeesSame.alike_ofDsn (h : SeesSame args args' dsn dsn' env env')
    (hpresent : (Credentials.password? args dsn env).isSome
      = (Credentials.password? args' dsn' env').isSome) :
    Alike SameBesidePassword (ofDsn args dsn env) (ofDsn args' dsn' env') := by
  rw [h.ofDsn_eq]
  cases hr : ofDsn args dsn env with
  | error e => exact .fault e
  | ok r =>
    have hpassword : r.parameters.password = Credentials.password? args dsn env := by
      obtain ⟨addresses, -, hr⟩ := bind_eq_ok_iff.mp hr
      obtain ⟨credentials, hcredentials, rfl⟩ := map_eq_ok_iff.mp hr
      exact Credentials.password_of_resolve hcredentials
    rw [← hpassword] at hpresent
    exact .value ⟨rfl, rfl, rfl, hpresent, rfl, rfl, rfl⟩

/-- Connection strings that differ in a password show nothing else of it. -/
theorem SeesSame.of_dsn (h : dsn.SameBesidePassword dsn') (args : Arguments) (env : Environment) :
    SeesSame args args dsn dsn' env env := by
  have hquery : ∀ key, key ≠ "password" → dsn.query.get? key = dsn'.query.get? key :=
    h.query.others
  refine ⟨?_, ?_, ?_, rfl, ?_⟩
  · unfold Addresses.resolve
    rw [h.hostList, hquery "port" (by decide), hquery "host" (by decide)]
  · unfold Credentials.user?
    rw [h.user, hquery "user" (by decide)]
  · unfold Credentials.database?
    rw [h.database, hquery "database" (by decide), hquery "dbname" (by decide)]
  · apply serverSettings_congr_dsn
    intro key hkey
    -- a password in the query is never forwarded
    apply hquery
    rintro rfl
    exact hkey (by decide)

/-- Environments that differ in a password show nothing else of it. -/
theorem SeesSame.of_environment (h : env.SameBesidePassword env') (args : Arguments) (dsn : Dsn) :
    SeesSame args args dsn dsn env env' := by
  refine ⟨h.addresses_eq args dsn, ?_, ?_, rfl, rfl⟩
  · unfold Credentials.user?
    rw [Environment.userVariable, h.nonEmpty? "EDGEDB_USER" (by decide), h.loginUser]
  · unfold Credentials.database?
    rw [Environment.databaseVariable, h.nonEmpty? "EDGEDB_DATABASE" (by decide)]

end Resolution

theorem Environment.sameBesidePassword_withVariable (env : Environment)
    (password password' : Option String) :
    (env.withVariable "EDGEDB_PASSWORD" password).SameBesidePassword
      (env.withVariable "EDGEDB_PASSWORD" password') := by
  refine ⟨?_, rfl, rfl⟩
  intro name hne
  rw [nonEmpty?_withVariable_of_ne hne, nonEmpty?_withVariable_of_ne hne]

/-- Passwords in the same places are found, or not found, alike. -/
theorem Credentials.isSome_password?_of_places (h : dsn.SamePasswordPlaces dsn')
    (args : Arguments) (env : Environment) :
    (password? args dsn env).isSome = (password? args dsn' env).isSome := by
  unfold password?
  simp only [Option.isSome_or, h.userInfo, h.query]

/-! ## Another password -/

/-- The sources of a password. -/
inductive PasswordSource where
  | argument
  | environment
  | query
  | userInfo
deriving DecidableEq

/-- Two inputs that agree but for the password that one source holds. Where an empty text would be
no password, neither of the two is empty. -/
inductive PasswordChange :
    PasswordSource → Arguments → Environment → Arguments → Environment → Prop
  | argument (args : Arguments) (env : Environment) (password password' : String) :
      PasswordChange .argument { args with password := some password } env
        { args with password := some password' } env
  | environment (args : Arguments) (env : Environment) (password password' : String) :
      PasswordChange .environment args (env.withVariable "EDGEDB_PASSWORD" (some password))
        args (env.withVariable "EDGEDB_PASSWORD" (some password'))
  /-- A field of the query, whatever stands before it and after it. -/
  | query (args : Arguments) (env : Environment) (layout : Dsn.Layout)
      (before after : List Dsn.QueryPiece) {scheme : List Char} {value value' : Dsn.QueryPiece}
      (colon : ':' ∉ scheme) (ne : value.text ≠ []) (ne' : value'.text ≠ []) :
      PasswordChange .query
        { args with
          dsn := (layout.withFields (before ++ .field .passwordKey value :: after)).textUnder
            scheme } env
        { args with
          dsn := (layout.withFields (before ++ .field .passwordKey value' :: after)).textUnder
            scheme } env
  /-- The password of the user information, as it is written. -/
  | userInfo (args : Arguments) (env : Environment) {layout : Dsn.Layout} {scheme : List Char}
      {password password' : Dsn.RawPassword} (place : layout.userInfo?.isSome = true)
      (colon : ':' ∉ scheme) (ne : password.written ≠ []) (ne' : password'.written ≠ []) :
      PasswordChange .userInfo
        { args with dsn := (layout.withPassword password).textUnder scheme } env
        { args with dsn := (layout.withPassword password').textUnder scheme } env

namespace Resolution

theorem resolve_of_textUnder (args : Arguments) (layout : Dsn.Layout) (scheme : List Char)
    (env : Environment) :
    SessionPlan.resolve { args with dsn := some (layout.textUnder scheme) } env
      = Dsn.parse (layout.textUnder scheme) >>= fun dsn => ofDsn args dsn env :=
  resolve_of_dsn Dsn.Layout.textUnder_ne_empty args env

end Resolution

namespace PasswordChange

variable {source : PasswordSource}

/-- **From a source that can always be read** another password changes no fault. -/
theorem alike_resolve (h : PasswordChange source args env args' env') (hne : source ≠ .userInfo) :
    Alike Resolution.SameBesidePassword (resolve args env) (resolve args' env') := by
  cases h with
  | argument args env password password' =>
    rw [Resolution.resolve_eq_ofDsn, Resolution.resolve_eq_ofDsn]
    refine Alike.bind_left _ fun dsn => ?_
    have hsame : Resolution.SeesSame { args with password := some password }
        { args with password := some password' } dsn dsn env env := ⟨rfl, rfl, rfl, rfl, rfl⟩
    exact hsame.alike_ofDsn rfl
  | environment args env password password' =>
    rw [Resolution.resolve_eq_ofDsn, Resolution.resolve_eq_ofDsn]
    refine Alike.bind_left _ fun dsn => ?_
    have hsame := env.sameBesidePassword_withVariable (some password) (some password')
    apply (Resolution.SeesSame.of_environment hsame args dsn).alike_ofDsn
    -- the variable of the password is set in both
    unfold Credentials.password?
    simp only [Environment.passwordVariable, Environment.get?_withVariable, if_true,
      Option.isSome_or, Option.isSome_some]
  | query args env layout before after colon ne ne' =>
    rw [Resolution.resolve_of_textUnder, Resolution.resolve_of_textUnder]
    apply (Dsn.alike_parse_withFields colon layout before after ne ne').bind
    rintro dsn dsn' ⟨hsame, hplaces⟩
    exact (Resolution.SeesSame.of_dsn hsame args env).alike_ofDsn
      (Credentials.isSome_password?_of_places hplaces args env)
  | userInfo => exact absurd rfl hne

/-- Two runs that succeed agree beside the password, whatever its source. -/
theorem same_of_resolve (h : PasswordChange source args env args' env') {r r' : Resolution}
    (hr : resolve args env = .ok r) (hr' : resolve args' env' = .ok r') :
    r.SameBesidePassword r' := by
  by_cases hsource : source = .userInfo
  · subst hsource
    cases h with
    | userInfo args env place colon ne ne' =>
      rw [Resolution.resolve_of_textUnder] at hr hr'
      obtain ⟨dsn, hdsn, hr⟩ := bind_eq_ok_iff.mp hr
      obtain ⟨dsn', hdsn', hr'⟩ := bind_eq_ok_iff.mp hr'
      obtain ⟨hsame, hplaces⟩ := Dsn.same_of_parse_withPassword colon place ne ne' hdsn hdsn'
      have halike := (Resolution.SeesSame.of_dsn hsame args env).alike_ofDsn
        (Credentials.isSome_password?_of_places hplaces args env)
      exact halike.related hr hr'
  · exact (h.alike_resolve hsource).related hr hr'

end PasswordChange

/-! ## Secrecy -/

/-- **A password flows nowhere else.** Two inputs agree but for the password that one source holds.
Unless it stands in the user information of a connection string, where it may be undecodable, one
run succeeds exactly when the other does, and their faults are the same. Whenever both succeed, they
agree on the targets, on the hosts for stored credentials, on every parameter but the password, and
on how the parameters are shown, on one line and over several; the password may have been overruled
or not. -/
theorem password_flows_into_password {source : PasswordSource} {args args' : Arguments}
    {env env' : Environment} (h : PasswordChange source args env args' env') :
    (source ≠ .userInfo →
      ((∃ r, resolve args env = .ok r) ↔ ∃ r', resolve args' env' = .ok r') ∧
      ∀ e, resolve args env = .error e ↔ resolve args' env' = .error e) ∧
    ∀ r r', resolve args env = .ok r → resolve args' env' = .ok r' →
      r.targets = r'.targets ∧
      r.authHosts = r'.authHosts ∧
      r.parameters.user = r'.parameters.user ∧
      r.parameters.database = r'.parameters.database ∧
      r.parameters.connectTimeout = r'.parameters.connectTimeout ∧
      r.parameters.serverSettings = r'.parameters.serverSettings ∧
      r.parameters.line = r'.parameters.line ∧
      r.parameters.block = r'.parameters.block := by
  constructor
  · intro hsource
    have halike := h.alike_resolve hsource
    exact ⟨halike.exists_ok_iff, halike.error_iff⟩
  · intro r r' hr hr'
    have hsame := h.same_of_resolve hr hr'
    exact ⟨hsame.targets, hsame.authHosts, hsame.shown.user, hsame.shown.database,
      hsame.shown.connectTimeout, hsame.shown.serverSettings, hsame.shown.line_eq,
      hsame.shown.block_eq⟩

/-- Passwords of a query, one of which is not even valid UTF-8 once decoded, are hidden alike. -/
theorem password_flows_into_password_of_query :
    let layout : Dsn.Layout := {
      authority := some {
        userInfo := some ⟨"me".toList, none, by simp, by simp⟩
        hostList := "h".toList
        hostList_free := by simp }
      path := []
      query := none
      fragment := none
      path_start := by decide
      path_free := by simp
      query_free := by simp }
    let field : Dsn.QueryPiece := .field ⟨"k".toList, by simp⟩ ⟨"v".toList, by simp⟩
    let value : Dsn.QueryPiece := ⟨"a+%FE".toList, by simp⟩
    let value' : Dsn.QueryPiece := ⟨"b".toList, by simp⟩
    let text (value : Dsn.QueryPiece) :=
      (layout.withFields ([] ++ .field .passwordKey value :: [field])).textUnder "edgedb".toList
    let env : Environment := ⟨fun _ => none, none, .unix⟩
    ∃ r r' : Resolution,
      text value = "edgedb://me@h?password=a+%FE&k=v" ∧
      text value' = "edgedb://me@h?password=b&k=v" ∧
      resolve { dsn := some (text value) } env = .ok r ∧
      resolve { dsn := some (text value') } env = .ok r' ∧
      r.parameters.password = some "a \uFFFD" ∧
      r'.parameters.password = some "b" ∧
      r.targets = r'.targets ∧
      r.parameters.line = r'.parameters.line := by
  intro layout field value value' text env
  have htext : text value = "edgedb://me@h?password=a+%FE&k=v" := by rfl
  have htext' : text value' = "edgedb://me@h?password=b&k=v" := by rfl
  have hr : (resolve { dsn := some (text value) } env).map (·.parameters.password)
      = .ok (some "a \uFFFD") := by
    rw [htext]
    rfl
  have hr' : (resolve { dsn := some (text value') } env).map (·.parameters.password)
      = .ok (some "b") := by
    rw [htext']
    rfl
  obtain ⟨r, hr, hpassword⟩ := map_eq_ok_iff.mp hr
  obtain ⟨r', hr', hpassword'⟩ := map_eq_ok_iff.mp hr'
  have hcolon : ':' ∉ "edgedb".toList := by decide
  have hvalue : value.text ≠ [] := by decide
  have hvalue' : value'.text ≠ [] := by decide
  obtain ⟨-, hsame⟩ := password_flows_into_password
    (.query {} env layout [] [field] hcolon hvalue hvalue')
  obtain ⟨htargets, -, -, -, -, -, hline, -⟩ := hsame r r' hr hr'
  exact ⟨r, r', htext, htext', hr, hr', hpassword, hpassword', htargets, hline⟩

end SessionPlan
