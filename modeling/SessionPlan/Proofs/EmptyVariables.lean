/-
Variables that are set to the empty text.

Wherever the value of a variable is asked for, an empty one counts as unset, and so it does for the
login user. Only the password is taken as it stands. So it makes no difference whether a variable is
empty or unset, except for the password: an empty one is a password, where no source of higher rank
holds any, and nothing else changes with it.
-/
import SessionPlan.Proofs.CredentialRank

set_option autoImplicit false

namespace SessionPlan

variable {args : Arguments} {dsn : Dsn} {env env' : Environment}

/-! ## Beside the password -/

/-- Two environments say the same about everything but the password. Of their variables only the
values that are not empty count. -/
structure Environment.SameBesidePassword (env env' : Environment) : Prop where
  nonEmpty? : ∀ name, name ≠ "EDGEDB_PASSWORD" → env.nonEmpty? name = env'.nonEmpty? name
  loginUser : env.loginUser = env'.loginUser
  platform : env.platform = env'.platform

/-- A resolution with another password. -/
def Resolution.withPassword (r : Resolution) (password : Option String) : Resolution :=
  { r with parameters := { r.parameters with password } }

/-- The password of settled credentials is the first one present. -/
theorem Credentials.password_of_resolve {credentials : Credentials}
    (h : resolve args dsn env = .ok credentials) :
    credentials.password = password? args dsn env := by
  obtain ⟨-, hpassword, -⟩ := sources_of_resolve h
  rw [password?_eq]
  exact hpassword

namespace Environment.SameBesidePassword

theorem addresses_eq (h : env.SameBesidePassword env') (args : Arguments) (dsn : Dsn) :
    Addresses.resolve args dsn env = Addresses.resolve args dsn env' := by
  rw [Addresses.resolve_eq_byRank, Addresses.resolve_eq_byRank]
  unfold Addresses.byRank HostSource.of HostSource.basePort
  rw [h.nonEmpty? "EDGEDB_HOST" (by decide), h.nonEmpty? "EDGEDB_PORT" (by decide), h.platform]

/-- Credentials differ in their password only. -/
theorem credentials_eq (h : env.SameBesidePassword env') (args : Arguments) (dsn : Dsn) :
    Credentials.resolve args dsn env' = (Credentials.resolve args dsn env).map fun credentials =>
      { credentials with password := Credentials.password? args dsn env' } := by
  have huser : Credentials.user? args dsn env' = Credentials.user? args dsn env := by
    unfold Credentials.user?
    rw [Environment.userVariable, h.nonEmpty? "EDGEDB_USER" (by decide), h.loginUser]
  have hdatabase : Credentials.database? args dsn env' = Credentials.database? args dsn env := by
    unfold Credentials.database?
    rw [Environment.databaseVariable, h.nonEmpty? "EDGEDB_DATABASE" (by decide)]
  unfold Credentials.resolve
  rw [huser, hdatabase]
  cases Credentials.user? args dsn env with
  | none => rfl
  | some user =>
    dsimp only
    split
    · rfl
    · rfl

/-- **The password alone.** Where the password of one environment comes from that of the other, so
does the resolution, its faults unchanged. -/
theorem resolve_eq (h : env.SameBesidePassword env') (change : Option String → Option String)
    (hchange : ∀ dsn, Credentials.password? args dsn env'
      = change (Credentials.password? args dsn env)) :
    resolve args env' = (resolve args env).map fun r =>
      r.withPassword (change r.parameters.password) := by
  rw [Resolution.resolve_eq_ofDsn, Resolution.resolve_eq_ofDsn, map_of_bind]
  apply bind_congr
  intro dsn
  unfold Resolution.ofDsn
  rw [h.addresses_eq, h.credentials_eq, map_of_bind]
  apply bind_congr
  intro addresses
  cases hcredentials : Credentials.resolve args dsn env with
  | error e => rfl
  | ok credentials =>
    simp only [map_ok]
    rw [hchange, ← Credentials.password_of_resolve hcredentials]
    rfl

/-- Environments with one password resolve alike. -/
theorem resolve_eq_of_get? (h : env.SameBesidePassword env')
    (hpassword : env.get? "EDGEDB_PASSWORD" = env'.get? "EDGEDB_PASSWORD") :
    resolve args env' = resolve args env := by
  have hsame : ∀ dsn, Credentials.password? args dsn env'
      = id (Credentials.password? args dsn env) := by
    intro dsn
    unfold Credentials.password?
    rw [Environment.passwordVariable, hpassword]
    rfl
  rw [h.resolve_eq id hsame]
  cases resolve args env with
  | error e => rfl
  | ok r => rfl

end Environment.SameBesidePassword

/-! ## Environments that are made of variables -/

/-- A value that is empty is none to look up, as if its key were absent. -/
theorem TextMap.bind_nonEmpty_insert (values : TextMap String) (name : String) :
    (fun other => ((values.insert name "").get? other).bind nonEmpty)
      = fun other => ((values.erase name).get? other).bind nonEmpty := by
  funext other
  rw [get?_insert, get?_erase]
  by_cases h : other = name
  · rw [if_pos h, if_pos h]
    rfl
  · rw [if_neg h, if_neg h]

/-- Where an environment takes its login user from. -/
inductive Login where
  /-- A user that comes with the variables; an empty one counts as none. -/
  | given (user : Option String)
  /-- The login variables, or else the account. -/
  | lookedUp (account : Option String)

namespace Environment

variable {values : TextMap String} {login : Login} {platform : Platform} {name : String}

/-- The environment that is made of values. -/
def ofMap (values : TextMap String) (login : Login) (platform : Platform) : Environment :=
  match login with
  | .given user => VariableSet.toEnvironment ⟨values, user, platform⟩
  | .lookedUp account => ofVariables values.get? account platform

@[simp] theorem get?_ofMap : (ofMap values login platform).get? = values.get? := by
  cases login with
  | given user => rfl
  | lookedUp account => rfl

/-- An empty variable changes nothing, unless it is that of the password. -/
theorem sameBesidePassword_ofMap (name : String) :
    (ofMap (values.erase name) login platform).SameBesidePassword
      (ofMap (values.insert name "") login platform) := by
  have hlookups := values.bind_nonEmpty_insert name
  refine ⟨?_, ?_, ?_⟩
  · intro other _
    unfold Environment.nonEmpty?
    rw [get?_ofMap, get?_ofMap]
    exact (congrFun hlookups other).symm
  · cases login with
    | given user => rfl
    | lookedUp account =>
      -- the login variables are asked for values that are not empty
      show (loginVariables.findSome? _).or account = (loginVariables.findSome? _).or account
      rw [hlookups]
  · cases login with
    | given user => rfl
    | lookedUp account => rfl

theorem get?_ofMap_insert_of_ne {other : String} (h : other ≠ name) (value : String) :
    (ofMap (values.erase name) login platform).get? other
      = (ofMap (values.insert name value) login platform).get? other := by
  rw [get?_ofMap, get?_ofMap, TextMap.get?_erase, TextMap.get?_insert, if_neg h, if_neg h]

end Environment

/-! ## Empty or unset -/

/-- **An empty variable counts as unset**, be it one of the connection or one of the login user: the
resolutions are equal, whether they succeed or fail. The variable of the password is the one
exception. Set to the empty text it changes no fault and nothing of a resolution but the password,
and this only from none to an empty one. -/
theorem empty_variable_as_unset (args : Arguments) (values : TextMap String) (login : Login)
    (platform : Platform) :
    (∀ name, name ≠ "EDGEDB_PASSWORD" →
      resolve args (.ofMap (values.insert name "") login platform)
        = resolve args (.ofMap (values.erase name) login platform)) ∧
    resolve args (.ofMap (values.insert "EDGEDB_PASSWORD" "") login platform)
      = (resolve args (.ofMap (values.erase "EDGEDB_PASSWORD") login platform)).map fun r =>
        r.withPassword (r.parameters.password.or (some "")) := by
  constructor
  · intro name hne
    apply (Environment.sameBesidePassword_ofMap name).resolve_eq_of_get?
    exact Environment.get?_ofMap_insert_of_ne hne.symm ""
  · have hset : (Environment.ofMap (values.insert "EDGEDB_PASSWORD" "") login platform).get?
        "EDGEDB_PASSWORD" = some "" := by
      rw [Environment.get?_ofMap, TextMap.get?_insert, if_pos rfl]
    have hunset : (Environment.ofMap (values.erase "EDGEDB_PASSWORD") login platform).get?
        "EDGEDB_PASSWORD" = none := by
      rw [Environment.get?_ofMap, TextMap.get?_erase, if_pos rfl]
    apply (Environment.sameBesidePassword_ofMap "EDGEDB_PASSWORD").resolve_eq
      (fun password => password.or (some ""))
    intro dsn
    unfold Credentials.password?
    rw [Environment.passwordVariable, hset, hunset]
    simp only [Option.or_none, Option.or_assoc]

/-- An empty login variable, passed over for the next one; and an empty password, which is there while
the other parameters stay as they are. -/
theorem empty_variable_as_unset_of_login :
    let values : TextMap String := .ofList [("EDGEDB_HOST", "h:1"), ("USER", "me")]
    let env (values : TextMap String) := Environment.ofMap values (.lookedUp none) .unix
    let r : Resolution := {
      targets := [.tcp "h" 1]
      parameters := {
        user := "me"
        password := none
        database := "me"
        connectTimeout := none
        serverSettings := none }
      authHosts := ["h"] }
    "LOGNAME" ≠ "EDGEDB_PASSWORD" ∧
      resolve {} (env (values.erase "LOGNAME")) = .ok r ∧
      resolve {} (env (values.insert "LOGNAME" "")) = .ok r ∧
      resolve {} (env (values.insert "EDGEDB_PASSWORD" "")) = .ok (r.withPassword (some "")) := by
  intro values env r
  obtain ⟨hempty, hpassword⟩ := empty_variable_as_unset {} values (.lookedUp none) .unix
  have hne : "LOGNAME" ≠ "EDGEDB_PASSWORD" := by decide
  have hunset : resolve {} (env (values.erase "LOGNAME")) = .ok r := by rfl
  have hplain : resolve {} (env (values.erase "EDGEDB_PASSWORD")) = .ok r := by rfl
  rw [hplain] at hpassword
  exact ⟨hne, hunset, (hempty "LOGNAME" hne).trans hunset, hpassword⟩

/-- An empty password of the environment is not the same as none. -/
theorem empty_password_is_a_password :
    ¬ ∀ (args : Arguments) (values : TextMap String) (login : Login) (platform : Platform),
      ∀ name ∈ ["EDGEDB_HOST", "EDGEDB_PORT", "EDGEDB_USER", "EDGEDB_PASSWORD", "EDGEDB_DATABASE",
        "LOGNAME", "USER", "LNAME", "USERNAME"],
      resolve args (.ofMap (values.insert name "") login platform)
        = resolve args (.ofMap (values.erase name) login platform) := by
  intro h
  have hsame := h { host := some (.single "h") } .empty (.given (some "me")) .unix
    "EDGEDB_PASSWORD" (by decide)
  have hempty : (resolve { host := some (.single "h") }
      (.ofMap (TextMap.empty.insert "EDGEDB_PASSWORD" "") (.given (some "me")) .unix)).map
      (·.parameters.password) = .ok (some "") := by rfl
  rw [hsame] at hempty
  cases hempty

end SessionPlan
