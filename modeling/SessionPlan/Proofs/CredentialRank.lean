/-
Which source settles user, password and database.

For each of the three there is one list of sources in order of rank, and the first source present
decides. The statements below hold for every connection string that parses and every environment in
which the addresses are settled; the credentials are then all that can still be missing.
-/
import SessionPlan.Proofs.AddressRank

set_option autoImplicit false

namespace SessionPlan

namespace Credentials

variable {args : Arguments} {dsn : Dsn} {env : Environment}

/-! ## The sources -/

/-- The sources of the user. -/
def userSources (args : Arguments) (dsn : Dsn) (env : Environment) : List (Option String) :=
  [args.user.bind nonEmpty, dsn.user, dsn.query.get? "user", env.nonEmpty? "EDGEDB_USER",
    env.loginUser]

/-- The sources of the password. -/
def passwordSources (args : Arguments) (dsn : Dsn) (env : Environment) : List (Option String) :=
  [args.password, dsn.password, dsn.query.get? "password", env.get? "EDGEDB_PASSWORD"]

/-- The sources of the database of a user; the last one is always present. -/
def databaseSources (args : Arguments) (dsn : Dsn) (env : Environment) (user : String) :
    List (Option String) :=
  [args.database.bind nonEmpty, dsn.database, dsn.query.get? "database", dsn.query.get? "dbname",
    env.nonEmpty? "EDGEDB_DATABASE", some user]

theorem user?_eq : user? args dsn env = firstPresent (userSources args dsn env) := by
  simp only [userSources, firstPresent_cons, firstPresent_nil, Option.or_none]
  rfl

theorem password?_eq : password? args dsn env = firstPresent (passwordSources args dsn env) := by
  simp only [passwordSources, firstPresent_cons, firstPresent_nil, Option.or_none]
  rfl

/-- The name of the user closes the list of sources, so a database is always found. -/
theorem some_database_eq (user : String) :
    some ((database? args dsn env).getD user)
      = firstPresent (databaseSources args dsn env user) := by
  have hdatabase : firstPresent (databaseSources args dsn env user)
      = (database? args dsn env).or (some user) := by
    simp only [databaseSources, firstPresent_cons, firstPresent_nil, Option.or_none, database?,
      Option.or_assoc]
    rfl
  rw [hdatabase]
  cases database? args dsn env with
  | none => rfl
  | some database => rfl

/-- The user whom the login variables name, or else the account: again the first source present. -/
theorem loginUser_ofVariables (get? : String → Option String) (account : Option String)
    (platform : Platform) :
    let env := Environment.ofVariables get? account platform
    env.loginUser = firstPresent [env.nonEmpty? "LOGNAME", env.nonEmpty? "USER",
      env.nonEmpty? "LNAME", env.nonEmpty? "USERNAME", account] := by
  intro env
  have hnames : env.loginUser
      = (firstPresent (Environment.loginVariables.map env.nonEmpty?)).or account := by
    rw [firstPresent, List.findSome?_map]
    rfl
  rw [hnames, Environment.loginVariables]
  simp only [List.map_cons, List.map_nil, firstPresent_cons, firstPresent_nil, Option.or_none,
    Option.or_assoc]

/-- **Credentials by rank.** -/
theorem resolve_eq_byRank (args : Arguments) (dsn : Dsn) (env : Environment) :
    resolve args dsn env
      = match firstPresent (userSources args dsn env) with
        | none => .error .missingUser
        | some user =>
          let database := (database? args dsn env).getD user
          if database = "" then .error .missingDatabase
          else .ok ⟨user, firstPresent (passwordSources args dsn env), database⟩ := by
  rw [← user?_eq, ← password?_eq]
  rfl

/-- There is no user exactly when every source of one is absent. -/
theorem resolve_eq_missingUser_iff :
    resolve args dsn env = .error .missingUser
      ↔ ∀ source ∈ userSources args dsn env, source = none := by
  rw [resolve_eq_byRank, ← firstPresent_eq_none_iff]
  cases firstPresent (userSources args dsn env) with
  | none => simp
  | some user =>
    dsimp only
    split <;> simp

/-- The database is missing exactly when there is a user and the first source present is empty. -/
theorem resolve_eq_missingDatabase_iff :
    resolve args dsn env = .error .missingDatabase
      ↔ ∃ user, firstPresent (userSources args dsn env) = some user ∧
        firstPresent (databaseSources args dsn env user) = some "" := by
  rw [resolve_eq_byRank]
  cases firstPresent (userSources args dsn env) with
  | none => simp
  | some user =>
    simp only [Option.some.injEq, exists_eq_left', ← some_database_eq]
    split
    next hempty => simp [hempty]
    next hne => simp [hne]

/-- Settled credentials hold the first source present of each. -/
theorem sources_of_resolve {credentials : Credentials}
    (h : resolve args dsn env = .ok credentials) :
    firstPresent (userSources args dsn env) = some credentials.user ∧
    credentials.password = firstPresent (passwordSources args dsn env) ∧
    firstPresent (databaseSources args dsn env credentials.user) = some credentials.database := by
  rw [resolve_eq_byRank] at h
  cases huser : firstPresent (userSources args dsn env) with
  | none => rw [huser] at h; cases h
  | some user =>
    rw [huser] at h
    dsimp only at h
    split at h
    · cases h
    · cases h
      exact ⟨rfl, rfl, (some_database_eq user).symm⟩

/-- Settled credentials name a database. -/
theorem database_ne_empty {credentials : Credentials}
    (h : resolve args dsn env = .ok credentials) : credentials.database ≠ "" := by
  rw [resolve] at h
  split at h
  · cases h
  · dsimp only at h
    split at h
    · cases h
    next hne =>
      cases h
      exact hne

end Credentials

/-! ## Credentials of a resolution -/

/-- **Credentials by rank.** Once the connection string parses and the addresses are settled, a
resolution can only fail for want of a user or of a name for the database, and it does so exactly
when no source of the user is present, or when the first source present of the database is empty.
Otherwise user, password and database are the first sources present, and the timeout is that of the
arguments. By default the login user is the first login variable that is not empty, or else the
account. In the text of a query, fields with different keys may change places. -/
theorem credentials_by_rank {args : Arguments} {env : Environment} {dsn : Dsn}
    {addresses : Addresses} (hdsn : Resolution.readDsn args = .ok dsn)
    (haddresses : Addresses.resolve args dsn env = .ok addresses) :
    (resolve args env = .error .missingUser
      ↔ ∀ source ∈ Credentials.userSources args dsn env, source = none) ∧
    (resolve args env = .error .missingDatabase
      ↔ ∃ user, firstPresent (Credentials.userSources args dsn env) = some user ∧
        firstPresent (Credentials.databaseSources args dsn env user) = some "") ∧
    (∀ e, resolve args env = .error e → e = .missingUser ∨ e = .missingDatabase) ∧
    (∀ r, resolve args env = .ok r →
      firstPresent (Credentials.userSources args dsn env) = some r.parameters.user ∧
      r.parameters.password = firstPresent (Credentials.passwordSources args dsn env) ∧
      firstPresent (Credentials.databaseSources args dsn env r.parameters.user)
        = some r.parameters.database ∧
      r.parameters.connectTimeout = args.connectTimeout) ∧
    (∀ get? account platform, env = Environment.ofVariables get? account platform →
      env.loginUser = firstPresent [env.nonEmpty? "LOGNAME", env.nonEmpty? "USER",
        env.nonEmpty? "LNAME", env.nonEmpty? "USERNAME", account]) ∧
    ∀ before f g after j k, Dsn.fieldKey? f = some j → Dsn.fieldKey? g = some k → j ≠ k →
      (∀ field ∈ before ++ f :: g :: after, '&' ∉ field) →
      Dsn.readQuery (['&'].intercalate (before ++ f :: g :: after))
        = Dsn.readQuery (['&'].intercalate (before ++ g :: f :: after)) := by
  have hresolve : resolve args env = (Credentials.resolve args dsn env).map fun credentials =>
      ⟨Resolution.targetsOf addresses, Resolution.parametersOf args dsn credentials,
        addresses.authHosts⟩ := by
    rw [Resolution.resolve_eq, hdsn, ok_bind, haddresses, ok_bind]
  rw [hresolve]
  -- past the addresses a resolution succeeds and fails as its credentials do
  simp only [map_eq_error_iff, map_eq_ok_iff]
  refine ⟨Credentials.resolve_eq_missingUser_iff, Credentials.resolve_eq_missingDatabase_iff,
    fun e => Resolution.fault_of_credentials, ?_, ?_, ?_⟩
  · -- the parameters copy the credentials, and the timeout of the arguments
    rintro r ⟨credentials, hcredentials, rfl⟩
    obtain ⟨huser, hpassword, hdatabase⟩ := Credentials.sources_of_resolve hcredentials
    exact ⟨huser, hpassword, hdatabase, rfl⟩
  · rintro get? account platform rfl
    exact Credentials.loginUser_ofVariables get? account platform
  · intro before f g after j k hf hg hne hsplit
    exact Dsn.readQuery_swap hf hg hne hsplit

/-- A database that a query names twice: `database` decides, although `dbname` comes first. The user
is the first login variable that is not empty. -/
theorem credentials_by_rank_of_query :
    let args : Arguments := { dsn := some "edgedb://h/?dbname=a&database=b" }
    let dsn : Dsn := { hostList := some "h", query := .ofList [("dbname", "a"), ("database", "b")] }
    let env := Environment.ofVariables
      (fun name => if name = "LOGNAME" then some "" else if name = "USER" then some "me" else none)
      none .unix
    Resolution.readDsn args = .ok dsn ∧
      Addresses.resolve args dsn env = .ok ⟨["h"], [5656], ["h"]⟩ ∧
      env.loginUser = firstPresent [none, some "me", none, none, none] ∧
      ∃ r, resolve args env = .ok r ∧
        some r.parameters.user = firstPresent [none, none, none, none, some "me"] ∧
        some r.parameters.database
          = firstPresent [none, none, some "b", some "a", none, some "me"] := by
  intro args dsn env
  have hdsn : Resolution.readDsn args = .ok dsn := by rfl
  have haddresses : Addresses.resolve args dsn env = .ok ⟨["h"], [5656], ["h"]⟩ := by rfl
  obtain ⟨-, -, -, hsources, hlogin, -⟩ := credentials_by_rank hdsn haddresses
  refine ⟨hdsn, haddresses, hlogin _ _ _ rfl, ?_⟩
  obtain ⟨r, hr⟩ : ∃ r, resolve args env = .ok r := ⟨_, rfl⟩
  obtain ⟨huser, -, hdatabase, -⟩ := hsources r hr
  have hme : r.parameters.user = "me" := Option.some.inj (huser.symm.trans rfl)
  rw [hme] at hdatabase
  exact ⟨r, hr, huser.symm, hdatabase.symm⟩

end SessionPlan
