/-
From a document to a plan, stage by stage.

A document is decoded, its server settings are checked, its command timeout is checked, and last of
all its arguments are resolved. The fault is that of the first stage that fails. The timeout has a
stage of its own, and no other stage looks at it: so it is refused whatever the arguments and the
environment hold, and an accepted one, or none, makes no difference to the rest of the plan.
-/
import SessionPlan.Proofs.DocumentReaders

set_option autoImplicit false

namespace SessionPlan

/-! ## The stage of the timeout -/

/-- A timeout is accepted, if there is one. -/
def CommandTimeout.Accepted (timeout : Option CommandTimeout) : Prop :=
  ∀ t, timeout = some t → ∃ seconds, t.seconds? = some seconds

namespace ClientSettings

variable {timeout : Option CommandTimeout}

theorem ofTimeout_of_accepted (h : CommandTimeout.Accepted timeout) :
    ofTimeout timeout = .ok ⟨timeout.bind (·.seconds?)⟩ := by
  cases timeout with
  | none => rfl
  | some t =>
    obtain ⟨seconds, hseconds⟩ := h t rfl
    rw [ofTimeout, hseconds, Option.bind_some, hseconds]

/-- Only a timeout that is there can be refused. -/
theorem not_accepted_iff : ¬ CommandTimeout.Accepted timeout
    ↔ ∃ t, timeout = some t ∧ t.seconds? = none := by
  unfold CommandTimeout.Accepted
  simp only [not_forall, exists_prop, not_exists, ← ne_eq, ← Option.eq_none_iff_forall_ne_some]

theorem ofTimeout_of_refused {t : CommandTimeout} (h : t.seconds? = none) :
    ofTimeout (some t) = .error (.invalidCommandTimeout t.shown) := by
  rw [ofTimeout, h]

end ClientSettings

/-! ## Plans -/

section

variable {args : Arguments} {timeout : Option CommandTimeout} {env : Environment}

/-- With an accepted timeout, or none, the resolution alone decides. -/
theorem plan_of_accepted (h : CommandTimeout.Accepted timeout) (args : Arguments)
    (env : Environment) :
    plan args timeout env = ((resolve args env).mapError .parameters).map fun r =>
      Plan.ofResolution r ⟨timeout.bind (·.seconds?)⟩ := by
  rw [plan, ClientSettings.ofTimeout_of_accepted h, ok_bind, map_eq_bind]
  rfl

/-- A timeout that is refused is reported before anything is resolved. -/
theorem plan_of_refused {t : CommandTimeout} (h : t.seconds? = none) (args : Arguments)
    (env : Environment) :
    plan args (some t) env = .error (.invalidCommandTimeout t.shown) := by
  rw [plan, ClientSettings.ofTimeout_of_refused h]
  rfl

end

namespace Configuration

/-- Plans the connection of a document. -/
def planText (text : String) (env : Environment) : Except PlanError Plan :=
  ofText text >>= fun c => c.plan env

namespace Draft

/-- The arguments of a decoded document, with the server settings that it gives. -/
def arguments (draft : Draft) (settings : Option (TextMap String)) : Arguments :=
  { draft.configuration.args with serverSettings := settings }

/-- Two decoded documents differ in their timeouts only. -/
structure SameBesideTimeout (draft draft' : Draft) : Prop where
  args : draft.configuration.args = draft'.configuration.args
  serverSettings : draft.serverSettings = draft'.serverSettings

/-- So do documents whose connections have the same fields, but for the one of the timeout. -/
theorem sameBesideTimeout_of_fields {text text' : String} {draft draft' : Draft}
    (h : ofDocument? text = some draft) (h' : ofDocument? text' = some draft')
    {root root' entries entries' : List (String × Toml.Value)}
    (hroot : Toml.parse? text = some root) (hroot' : Toml.parse? text' = some root')
    (hconnection : root.lookup "connection" = some (.table entries))
    (hconnection' : root'.lookup "connection" = some (.table entries'))
    (hsame : ∀ name, name ≠ "command_timeout" → entries.lookup name = entries'.lookup name) :
    draft.SameBesideTimeout draft' := by
  rw [ofDocument?_eq_ofValue? hroot hconnection] at h
  rw [ofDocument?_eq_ofValue? hroot' hconnection'] at h'
  obtain ⟨fields, args, timeout, kept, hfields, hargs, -, hkept, rfl⟩ := ofValue?_eq_some_iff.mp h
  obtain ⟨fields', args', timeout', kept', hfields', hargs', -, hkept', rfl⟩ :=
    ofValue?_eq_some_iff.mp h'
  obtain ⟨-, rfl⟩ := fields?_table_eq_some_iff.mp hfields
  obtain ⟨-, rfl⟩ := fields?_table_eq_some_iff.mp hfields'
  have hrel : ∀ name ∈ Toml.argumentNames,
      Option.Rel Toml.Value.Same (fields.lookup name) (fields'.lookup name) := by
    intro name hname
    have hne : name ≠ "command_timeout" := by
      rintro rfl
      exact absurd hname (by decide)
    rw [hsame name hne]
    exact Toml.Value.Same.rel_refl _
  refine ⟨?_, ?_⟩
  · rw [Toml.argumentFields?_eq hrel, hargs'] at hargs
    exact (Option.some.inj hargs).symm
  · unfold Toml.field? at hkept hkept'
    rw [hsame "server_settings" (by decide), hkept'] at hkept
    exact (Option.some.inj hkept).symm

variable {text : String} {env : Environment} {draft : Draft}

/-- **What is left of a document** once it is decoded: its server settings are checked, and then its
connection is planned. -/
theorem planText_eq (h : ofDocument? text = some draft) (env : Environment) :
    planText text env
      = (Settings.check draft.serverSettings).mapError .parameters >>= fun settings =>
          SessionPlan.plan (draft.arguments settings) draft.configuration.commandTimeout env := by
  unfold planText ofText
  rw [h]
  dsimp only
  rw [ofDraft_eq (unsettled_of_ofDocument h)]
  cases Settings.check draft.serverSettings with
  | error fault => rfl
  | ok settings => rfl

/-- With server settings that are what its table gives, only the plan is left. -/
theorem planText_of_given (h : ofDocument? text = some draft)
    {settings : Option (TextMap String)} (hgiven : Settings.Given draft.serverSettings settings)
    (env : Environment) :
    planText text env
      = SessionPlan.plan (draft.arguments settings) draft.configuration.commandTimeout env := by
  have hkeys := (unsettled_of_ofDocument h).keys
  rw [planText_eq h, (Settings.check_eq_ok_iff hkeys).mpr hgiven]
  rfl

/-- Server settings that are no table of strings are a fault. -/
theorem planText_of_fault (h : ofDocument? text = some draft) {value : Toml.Value}
    (hvalue : draft.serverSettings = some value) {fault : ParameterError}
    (hfault : Settings.Fault value fault) (env : Environment) :
    planText text env = .error (.parameters fault) := by
  have hkeys := (unsettled_of_ofDocument h).keys
  rw [planText_eq h, (Settings.check_eq_error_iff hkeys).mpr ⟨value, hvalue, hfault⟩]
  rfl

/-- They are one or the other. -/
theorem given_or_fault (h : ofDocument? text = some draft) :
    (∃ settings, Settings.Given draft.serverSettings settings) ∨
      ∃ value fault, draft.serverSettings = some value ∧ Settings.Fault value fault := by
  have hkeys := (unsettled_of_ofDocument h).keys
  cases hcheck : Settings.check draft.serverSettings with
  | ok settings => exact Or.inl ⟨settings, (Settings.check_eq_ok_iff hkeys).mp hcheck⟩
  | error fault =>
    obtain ⟨value, hvalue, hfault⟩ := (Settings.check_eq_error_iff hkeys).mp hcheck
    exact Or.inr ⟨value, fault, hvalue, hfault⟩

end Draft

/-! ## The first stage that fails -/

/-- What is wrong with a document that comes to no plan: it cannot be decoded; or its server
settings are no table of strings; or its timeout is refused; or its arguments cannot be resolved.
Each is the fault only if nothing before it is. -/
inductive DocumentFault (text : String) (env : Environment) : PlanError → Prop
  | malformed (undecodable : Draft.ofDocument? text = none) :
      DocumentFault text env .malformedDocument
  | settings {draft : Draft} {value : Toml.Value} {fault : ParameterError}
      (decodes : Draft.ofDocument? text = some draft) (given : draft.serverSettings = some value)
      (lacks : Settings.Fault value fault) : DocumentFault text env (.parameters fault)
  | timeout {draft : Draft} {settings : Option (TextMap String)} {timeout : CommandTimeout}
      (decodes : Draft.ofDocument? text = some draft)
      (given : Settings.Given draft.serverSettings settings)
      (present : draft.configuration.commandTimeout = some timeout)
      (refused : timeout.seconds? = none) :
      DocumentFault text env (.invalidCommandTimeout timeout.shown)
  | resolution {draft : Draft} {settings : Option (TextMap String)} {fault : ParameterError}
      (decodes : Draft.ofDocument? text = some draft)
      (given : Settings.Given draft.serverSettings settings)
      (accepted : CommandTimeout.Accepted draft.configuration.commandTimeout)
      (fails : resolve (draft.arguments settings) env = .error fault) :
      DocumentFault text env (.parameters fault)

/-- What a document comes to: a plan that has all that the resolution of its arguments has, and the
seconds of its timeout. -/
structure PlannedAs (text : String) (env : Environment) (p : Plan) (draft : Draft)
    (settings : Option (TextMap String)) (r : Resolution) : Prop where
  decodes : Draft.ofDocument? text = some draft
  given : Settings.Given draft.serverSettings settings
  accepted : CommandTimeout.Accepted draft.configuration.commandTimeout
  resolves : resolve (draft.arguments settings) env = .ok r
  targets : p.targets = r.targets
  parameters : p.parameters = r.parameters
  authHosts : p.authHosts = r.authHosts
  commandTimeout : p.client.commandTimeout = draft.configuration.commandTimeout.bind (·.seconds?)

variable {text : String} {env : Environment}

/-- These fields leave nothing open: the plan is the one that is made of the resolution. -/
theorem PlannedAs.eq_ofResolution {p : Plan} {draft : Draft} {settings : Option (TextMap String)}
    {r : Resolution} (h : PlannedAs text env p draft settings r) :
    p = Plan.ofResolution r ⟨draft.configuration.commandTimeout.bind (·.seconds?)⟩ := by
  obtain ⟨targets, parameters, ⟨commandTimeout⟩, authHosts⟩ := p
  obtain rfl : targets = r.targets := h.targets
  obtain rfl : parameters = r.parameters := h.parameters
  obtain rfl : authHosts = r.authHosts := h.authHosts
  obtain rfl : commandTimeout = draft.configuration.commandTimeout.bind (·.seconds?) :=
    h.commandTimeout
  rfl

theorem PlannedAs.planText_eq {p : Plan} {draft : Draft} {settings : Option (TextMap String)}
    {r : Resolution} (h : PlannedAs text env p draft settings r) : planText text env = .ok p := by
  rw [Draft.planText_of_given h.decodes h.given, plan_of_accepted h.accepted, h.resolves,
    h.eq_ofResolution]
  rfl

theorem DocumentFault.planText_eq {e : PlanError} (h : DocumentFault text env e) :
    planText text env = .error e := by
  cases h with
  | malformed undecodable =>
    unfold planText ofText
    rw [undecodable]
    rfl
  | settings decodes given lacks => exact Draft.planText_of_fault decodes given lacks env
  | timeout decodes given present refused =>
    rw [Draft.planText_of_given decodes given, present, plan_of_refused refused]
  | resolution decodes given accepted fails =>
    rw [Draft.planText_of_given decodes given, plan_of_accepted accepted, fails]
    rfl

/-- **Every document** comes to a plan, or it has a fault. -/
theorem planned_or_fault (text : String) (env : Environment) :
    (∃ p draft settings r, PlannedAs text env p draft settings r) ∨
      ∃ e, DocumentFault text env e := by
  cases hdecodes : Draft.ofDocument? text with
  | none => exact Or.inr ⟨_, .malformed hdecodes⟩
  | some draft =>
    rcases Draft.given_or_fault hdecodes with ⟨settings, hgiven⟩ | ⟨value, fault, hvalue, hfault⟩
    · by_cases haccepted : CommandTimeout.Accepted draft.configuration.commandTimeout
      · cases hresolves : resolve (draft.arguments settings) env with
        | ok r =>
          refine Or.inl ⟨Plan.ofResolution r ⟨draft.configuration.commandTimeout.bind (·.seconds?)⟩,
            draft, settings, r, ?_⟩
          exact ⟨hdecodes, hgiven, haccepted, hresolves, rfl, rfl, rfl, rfl⟩
        | error fault => exact Or.inr ⟨_, .resolution hdecodes hgiven haccepted hresolves⟩
      · obtain ⟨timeout, hpresent, hrefused⟩ := ClientSettings.not_accepted_iff.mp haccepted
        exact Or.inr ⟨_, .timeout hdecodes hgiven hpresent hrefused⟩
    · exact Or.inr ⟨_, .settings hdecodes hvalue hfault⟩

/-- **Another timeout** that is accepted, or none, changes nothing else: two documents that differ
in it fail alike, or their plans agree in all that comes from the resolution. -/
theorem Draft.SameBesideTimeout.alike_planText {draft draft' : Draft}
    (hsame : draft.SameBesideTimeout draft') {text' : String}
    (h : Draft.ofDocument? text = some draft) (h' : Draft.ofDocument? text' = some draft')
    (haccepted : CommandTimeout.Accepted draft.configuration.commandTimeout)
    (haccepted' : CommandTimeout.Accepted draft'.configuration.commandTimeout) (env : Environment) :
    Alike (fun p p' => p.targets = p'.targets ∧ p.parameters = p'.parameters ∧
      p.authHosts = p'.authHosts) (planText text env) (planText text' env) := by
  have harguments : ∀ settings, draft.arguments settings = draft'.arguments settings := by
    intro settings
    rw [Draft.arguments, Draft.arguments, hsame.args]
  rcases Draft.given_or_fault h with ⟨settings, hgiven⟩ | ⟨value, fault, hvalue, hfault⟩
  · rw [Draft.planText_of_given h hgiven,
      Draft.planText_of_given h' (hsame.serverSettings ▸ hgiven), plan_of_accepted haccepted,
      plan_of_accepted haccepted', harguments]
    -- both plans are made from one resolution
    cases resolve (draft'.arguments settings) env with
    | error fault => exact .fault _
    | ok r => exact .value ⟨rfl, rfl, rfl⟩
  · rw [Draft.planText_of_fault h hvalue hfault,
      Draft.planText_of_fault h' (hsame.serverSettings ▸ hvalue) hfault]
    exact .fault _

/-- **From a document to a plan.** There is a plan exactly when the document can be decoded, its
server settings are a table of strings, its timeout is accepted, and its arguments are resolved; the
plan is that of the resolution. Otherwise the fault is that of the first stage, in this order, that
fails. Two documents that can be decoded, and that differ only in a timeout that is accepted or
absent, fail alike or have the same targets, parameters and hosts for stored credentials. -/
theorem planned_by_stages (text : String) (env : Environment) :
    (∀ p, planText text env = .ok p ↔ ∃ draft settings r, PlannedAs text env p draft settings r) ∧
    (∀ e, planText text env = .error e ↔ DocumentFault text env e) ∧
    ∀ (text' : String) (draft draft' : Draft), Draft.ofDocument? text = some draft →
      Draft.ofDocument? text' = some draft' → draft.SameBesideTimeout draft' →
      CommandTimeout.Accepted draft.configuration.commandTimeout →
      CommandTimeout.Accepted draft'.configuration.commandTimeout →
      Alike (fun p p' => p.targets = p'.targets ∧ p.parameters = p'.parameters ∧
        p.authHosts = p'.authHosts) (planText text env) (planText text' env) := by
  refine ⟨?_, ?_, ?_⟩
  · intro p
    constructor
    · intro h
      rcases planned_or_fault text env with ⟨p', draft, settings, r, hplanned⟩ | ⟨e, hfault⟩
      · obtain rfl : p' = p := Except.ok.inj (hplanned.planText_eq.symm.trans h)
        exact ⟨draft, settings, r, hplanned⟩
      · rw [hfault.planText_eq] at h
        cases h
    · rintro ⟨draft, settings, r, hplanned⟩
      exact hplanned.planText_eq
  · intro e
    constructor
    · intro h
      rcases planned_or_fault text env with ⟨p, draft, settings, r, hplanned⟩ | ⟨e', hfault⟩
      · rw [hplanned.planText_eq] at h
        cases h
      · obtain rfl : e' = e := Except.error.inj (hfault.planText_eq.symm.trans h)
        exact hfault
    · exact fun hfault => hfault.planText_eq
  · intro text' draft draft' h h' hsame haccepted haccepted'
    exact hsame.alike_planText h h' haccepted haccepted' env

/-- A timeout in front of the other fields, and none; and one that is refused before the connection
string is. -/
theorem planned_by_stages_of_timeouts :
    let text :=
      "[connection]\ncommand_timeout = \" 1.5 \"\nhost = \"h\"\nuser = \"u\"\npassword = \"s\""
    let text' := "[connection]\nhost = \"h\"\nuser = \"u\"\npassword = \"s\""
    let refused := "connection = \x7b dsn = \"none\", command_timeout = false \x7d"
    let env : Environment := ⟨fun _ => none, none, .unix⟩
    let parameters : Parameters := ⟨"u", some "s", "u", none, none⟩
    planText text env
      = .ok ⟨[.tcp "h" 5656], parameters, ⟨some (Binary64.ofRatio false 3 2)⟩, ["h"]⟩ ∧
    (∃ p', planText text' env = .ok p' ∧ p'.targets = [.tcp "h" 5656] ∧
      p'.parameters = parameters ∧ p'.authHosts = ["h"] ∧ p'.client.commandTimeout = none) ∧
    planText refused env = .error (.invalidCommandTimeout "false") := by
  intro text text' refused env parameters
  have hroot : Toml.parse? text = some [("connection", .table
      [("command_timeout", .string " 1.5 "), ("host", .string "h"), ("user", .string "u"),
        ("password", .string "s")])] := by
    decide +kernel
  have hroot' : Toml.parse? text' = some [("connection", .table
      [("host", .string "h"), ("user", .string "u"), ("password", .string "s")])] := by
    decide +kernel
  let args : Arguments := { host := some (.single "h"), user := some "u", password := some "s" }
  have hdraft : Draft.ofDocument? text = some ⟨⟨args, some (.numeral " 1.5 ")⟩, none⟩ := by
    decide +kernel
  have hdraft' : Draft.ofDocument? text' = some ⟨⟨args, none⟩, none⟩ := by
    decide +kernel
  have hrefused : Draft.ofDocument? refused = some
      ⟨⟨{ dsn := some "none" }, some (.flag false)⟩, none⟩ := by
    decide +kernel
  have hsame := Draft.sameBesideTimeout_of_fields hdraft hdraft' hroot hroot' rfl rfl (by
    intro name hname
    exact (TextMap.lookup_cons_eq _ _ _).trans (if_neg hname))
  have haccepted : CommandTimeout.Accepted (some (.numeral " 1.5 ")) := by
    intro t ht
    obtain rfl : CommandTimeout.numeral " 1.5 " = t := Option.some.inj ht
    exact Option.isSome_iff_exists.mp (by decide +kernel)
  have habsent : CommandTimeout.Accepted none := by
    intro t ht
    cases ht
  have hresolves : resolve args env = .ok ⟨[.tcp "h" 5656], parameters, ["h"]⟩ := by
    decide +kernel
  obtain ⟨hplan, -, hplans⟩ := planned_by_stages text env
  obtain ⟨hplan', -, -⟩ := planned_by_stages text' env
  obtain ⟨-, hfault, -⟩ := planned_by_stages refused env
  have hseconds : some (Binary64.ofRatio false 3 2)
      = (some (CommandTimeout.numeral " 1.5 ")).bind (·.seconds?) := by decide +kernel
  have hp := (hplan ⟨[.tcp "h" 5656], parameters, ⟨some (Binary64.ofRatio false 3 2)⟩, ["h"]⟩).mpr
    ⟨_, none, _, hdraft, .absent, haccepted, hresolves, rfl, rfl, rfl, hseconds⟩
  -- the other document fails alike, so it does not fail
  have halike := hplans text' _ _ hdraft hdraft' hsame haccepted habsent
  obtain ⟨p', hp'⟩ := halike.exists_ok_iff.mp ⟨_, hp⟩
  obtain ⟨htargets, hparameters, hauthHosts⟩ := halike.related hp hp'
  obtain ⟨draft, settings, r, hplanned⟩ := (hplan' p').mp hp'
  have htimeout := hplanned.commandTimeout
  obtain rfl := Option.some.inj (hdraft'.symm.trans hplanned.decodes)
  exact ⟨hp, ⟨p', hp', htargets.symm, hparameters.symm, hauthHosts.symm, htimeout⟩,
    (hfault _).mpr (.timeout hrefused .absent rfl rfl)⟩

end Configuration

end SessionPlan
