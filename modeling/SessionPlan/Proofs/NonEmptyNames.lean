/-
Names that are not empty.

Every source of a name but one is filtered: an empty argument, an empty part of a connection string,
an empty value in a query and an empty variable all count as absent. The one that is not is the
login user, which is taken as the environment reports it. An environment that is built here never
reports an empty one, but other environments may, and then the empty text is a user like any other.
The database is checked once more at the end, so it always has a name.
-/
import SessionPlan.Proofs.CredentialRank
import SessionPlan.Proofs.DsnRoundTrip

set_option autoImplicit false

namespace SessionPlan

variable {args : Arguments} {dsn : Dsn} {env : Environment}

/-! ## Filtered sources -/

theorem bind_nonEmpty_ne_empty (value : Option String) : value.bind nonEmpty ≠ some "" := by
  intro h
  obtain ⟨text, -, htext⟩ := Option.bind_eq_some_iff.mp h
  rw [nonEmpty] at htext
  split at htext
  next => cases htext
  next hne => exact hne (Option.some.inj htext)

theorem Dsn.Printable.get?_ne_empty (h : dsn.Printable) (key : String) :
    dsn.query.get? key ≠ some "" :=
  fun hkey => h.query _ (TextMap.get?_eq_some_iff.mp hkey) rfl

/-- A connection string that says nothing names nothing by an empty text. -/
theorem Dsn.printable_default : ({} : Dsn).Printable := by
  have hnone : (none : Option String) ≠ some "" := (Option.some_ne_none "").symm
  have hhost : ∀ c ∈ hostDelimiters, c ∉ ((none : Option String).getD "").toList :=
    fun c _ => List.not_mem_nil
  exact ⟨hnone, hnone, hnone, hhost, hnone, fun _ hentry => absurd hentry List.not_mem_nil⟩

theorem Resolution.printable_of_readDsn (h : readDsn args = .ok dsn) : dsn.Printable := by
  rw [readDsn] at h
  split at h
  · exact Dsn.printable_of_parse h
  · cases h
    exact Dsn.printable_default

namespace Credentials

/-- The sources of the user that outrank the login user. -/
def namedUsers (args : Arguments) (dsn : Dsn) (env : Environment) : List (Option String) :=
  [args.user.bind nonEmpty, dsn.user, dsn.query.get? "user", env.nonEmpty? "EDGEDB_USER"]

theorem ne_empty_of_mem_namedUsers (h : dsn.Printable) {source : Option String}
    (hsource : source ∈ namedUsers args dsn env) : source ≠ some "" := by
  simp only [namedUsers, List.mem_cons, List.not_mem_nil, or_false] at hsource
  rcases hsource with rfl | rfl | rfl | rfl
  · exact bind_nonEmpty_ne_empty _
  · exact h.user
  · exact h.get?_ne_empty "user"
  · exact bind_nonEmpty_ne_empty _

/-- The login user counts where no other source names a user. -/
theorem firstPresent_userSources :
    firstPresent (userSources args dsn env)
      = (firstPresent (namedUsers args dsn env)).or env.loginUser := by
  simp only [userSources, namedUsers, firstPresent_cons, firstPresent_nil, Option.or_none,
    Option.or_assoc]

/-- **An empty user is an empty login user** whom no other source overrules. -/
theorem user_eq_empty_iff {credentials : Credentials} (hdsn : dsn.Printable)
    (h : resolve args dsn env = .ok credentials) :
    credentials.user = "" ↔
      env.loginUser = some "" ∧ ∀ source ∈ namedUsers args dsn env, source = none := by
  obtain ⟨huser, -, -⟩ := sources_of_resolve h
  rw [firstPresent_userSources] at huser
  rw [← firstPresent_eq_none_iff]
  cases hnamed : firstPresent (namedUsers args dsn env) with
  | none =>
    rw [hnamed, Option.none_or] at huser
    rw [huser, Option.some.injEq]
    exact ⟨fun hempty => ⟨hempty, rfl⟩, fun hempty => hempty.1⟩
  | some user =>
    -- a source that names a user does not name it by an empty text
    rw [hnamed, Option.some_or] at huser
    have hne := ne_empty_of_mem_namedUsers hdsn (mem_of_firstPresent hnamed)
    rw [Option.some.inj huser] at hne
    constructor
    · intro hempty
      exact absurd (congrArg some hempty) hne
    · rintro ⟨-, hnone⟩
      cases hnone

end Credentials

/-! ## Environments -/

namespace Environment

theorem loginUser_toEnvironment_ne_empty (set : VariableSet) :
    set.toEnvironment.loginUser ≠ some "" :=
  bind_nonEmpty_ne_empty set.user

/-- Login variables that are empty are passed over, so only the account could be empty. -/
theorem loginUser_ofVariables_ne_empty (get? : String → Option String) {account : Option String}
    (platform : Platform) (h : account ≠ some "") :
    (ofVariables get? account platform).loginUser ≠ some "" := by
  intro hlogin
  rcases Option.or_eq_some_iff.mp hlogin with hvariable | ⟨-, haccount⟩
  · obtain ⟨name, -, hname⟩ := List.exists_of_findSome?_eq_some hvariable
    exact bind_nonEmpty_ne_empty _ hname
  · exact h haccount

end Environment

/-! ## Resolutions -/

/-- **Where an empty name can come from.** The database of a resolution is never empty. Its user is
empty exactly when the login user is and no other source names one. No environment that is built
from a set of variables has such a login user, nor has one with the usual login variables, as long
as the account has a name. -/
theorem empty_user_is_empty_login (args : Arguments) (env : Environment) :
    (∀ r, resolve args env = .ok r →
      r.parameters.database ≠ "" ∧
      (r.parameters.user = "" ↔ env.loginUser = some "" ∧
        ∃ dsn, Resolution.readDsn args = .ok dsn ∧
          ∀ source ∈ Credentials.namedUsers args dsn env, source = none)) ∧
    (∀ set : VariableSet, env = set.toEnvironment → env.loginUser ≠ some "") ∧
    ∀ get? account platform, account ≠ some "" →
      env = Environment.ofVariables get? account platform → env.loginUser ≠ some "" := by
  refine ⟨?_, ?_, ?_⟩
  · intro r h
    obtain ⟨dsn, addresses, credentials, hdsn, -, hcredentials, rfl⟩ :=
      Resolution.stages_of_resolve h
    refine ⟨Credentials.database_ne_empty hcredentials, ?_⟩
    show credentials.user = "" ↔ _
    rw [Credentials.user_eq_empty_iff (Resolution.printable_of_readDsn hdsn) hcredentials, hdsn]
    simp
  · rintro set rfl
    exact Environment.loginUser_toEnvironment_ne_empty set
  · rintro get? account platform haccount rfl
    exact Environment.loginUser_ofVariables_ne_empty get? platform haccount

/-- An environment that reports an empty login user gives an empty user away; and where no source
names a database, it is the database that is missing then. -/
theorem empty_login_is_a_user :
    ¬ ((∀ (args : Arguments) (env : Environment) (r : Resolution), resolve args env = .ok r →
        r.parameters.user ≠ "" ∧ r.parameters.database ≠ "") ∨
      ∀ (args : Arguments) (env : Environment) (dsn : Dsn) (addresses : Addresses),
        Resolution.readDsn args = .ok dsn → Addresses.resolve args dsn env = .ok addresses →
        env.loginUser = some "" →
        (∀ source ∈ Credentials.namedUsers args dsn env, source = none) →
        resolve args env = .error .missingUser) := by
  let env : Environment := ⟨fun _ => none, some "", .unix⟩
  rintro (h | h)
  · obtain ⟨hne, -⟩ := h { host := some (.single "h"), database := some "app" } env _ rfl
    exact hne rfl
  · have hmissing := h { host := some (.single "h") } env {} _ rfl rfl rfl (by decide)
    have hdatabase : resolve { host := some (.single "h") } env = .error .missingDatabase := by rfl
    rw [hdatabase] at hmissing
    cases hmissing

end SessionPlan
