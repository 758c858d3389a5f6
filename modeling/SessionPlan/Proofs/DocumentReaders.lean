/-
Two readers of one connection.

A connection may be a document of its own, or the table `connection` of a document that holds other
things besides. Either way the fields of the table are read by name, so what is read does not depend
on the order of its keys. The two readers treat all fields alike but the server settings, which the
first reads on the spot and the second keeps as they are, to check them later: that makes a
difference only where a date-time comes in, or what is taken for one.
-/
import SessionPlan.Configuration
import SessionPlan.Proofs.SettingsTable

set_option autoImplicit false

namespace SessionPlan

namespace Toml

/-! ## Values that are the same -/

/-- Two values are the same, in whatever order their tables name the keys. -/
inductive Value.Same : Value → Value → Prop
  | string (text : String) : Same (.string text) (.string text)
  | integer (n : Int) : Same (.integer n) (.integer n)
  | float (x : Binary64) : Same (.float x) (.float x)
  | boolean (b : Bool) : Same (.boolean b) (.boolean b)
  | datetime (d : DateTime) : Same (.datetime d) (.datetime d)
  | array {elements elements' : List Value} (each : List.Forall₂ Same elements elements') :
      Same (.array elements) (.array elements')
  | table {entries entries' : List (String × Value)}
      (each : ∀ key, Option.Rel Same (entries.lookup key) (entries'.lookup key)) :
      Same (.table entries) (.table entries')

/-- Every value is the same as itself. -/
theorem Value.Same.refl : (v : Value) → v.Same v
  | .string text => .string text
  | .integer n => .integer n
  | .float x => .float x
  | .boolean b => .boolean b
  | .datetime d => .datetime d
  | .array elements => .array (List.forall₂_same.mpr fun v _ => refl v)
  | .table entries => .table fun key => by
    cases hlookup : entries.lookup key with
    | none => exact .none
    | some v =>
      obtain ⟨before, after, hentries, -⟩ := List.lookup_eq_some_iff.mp hlookup
      have hmem : (key, v) ∈ entries := by
        rw [hentries]
        exact List.mem_append_right _ List.mem_cons_self
      have hsize : sizeOf v < 1 + sizeOf entries := by
        have hpair := List.sizeOf_lt_of_mem hmem
        rw [Prod.mk.sizeOf_spec] at hpair
        omega
      exact .some (refl v)

theorem Value.Same.rel_refl (found : Option Value) : Option.Rel Value.Same found found := by
  cases found with
  | none => exact .none
  | some v => exact .some (.refl v)

/-- Keys that are distinct may be named in any order. -/
theorem Value.Same.of_perm {entries entries' : List (String × Value)}
    (hdistinct : TextMap.KeysDistinct entries) (hperm : entries.Perm entries') :
    (Value.table entries).Same (.table entries') := by
  refine .table fun key => ?_
  rw [TextMap.lookup_of_perm hperm hdistinct]
  exact rel_refl _

namespace Value.Same

variable {v v' : Value}

theorem asText?_eq (h : v.Same v') : v.asText? = v'.asText? := by
  cases h <;> rfl

theorem asPortNumber?_eq (h : v.Same v') : v.asPortNumber? = v'.asPortNumber? := by
  cases h <;> rfl

theorem asSeconds?_eq (h : v.Same v') : v.asSeconds? = v'.asSeconds? := by
  cases h <;> rfl

theorem asList?_eq {α : Type} {element? : Value → Option α}
    (helement : ∀ {v v' : Value}, v.Same v' → element? v = element? v') (h : v.Same v') :
    v.asList? element? = v'.asList? element? := by
  cases h with
  | string _ | integer _ | float _ | boolean _ | datetime _ | table _ => rfl
  | array each =>
    unfold asList?
    dsimp only
    induction each with
    | nil => rfl
    | cons hvalue _ ih => rw [List.mapM_cons, List.mapM_cons, helement hvalue, ih]

theorem asHost?_eq (h : v.Same v') : v.asHost? = v'.asHost? := by
  rw [asHost?, asHost?, h.asText?_eq, h.asList?_eq asText?_eq]

theorem asPort?_eq (h : v.Same v') : v.asPort? = v'.asPort? := by
  rw [asPort?, asPort?, h.asPortNumber?_eq, h.asList?_eq asPortNumber?_eq]

end Value.Same

/-! ## Fields by name -/

variable {entries entries' : List (String × Value)}

theorem field?_eq {α : Type} {form? : Value → Option α}
    (hform : ∀ {v v' : Value}, v.Same v' → form? v = form? v') {name : String}
    (hrel : Option.Rel Value.Same (entries.lookup name) (entries'.lookup name)) :
    field? entries name form? = field? entries' name form? := by
  unfold field?
  generalize entries.lookup name = found at hrel ⊢
  generalize entries'.lookup name = found' at hrel ⊢
  cases hrel with
  | none => rfl
  | some hvalue => exact congrArg (Option.map some) (hform hvalue)

/-- **The arguments** that fields give, as far as they are read on the spot, do not depend on the
order of the fields. -/
theorem argumentFields?_eq (hrel : ∀ name ∈ argumentNames,
    Option.Rel Value.Same (entries.lookup name) (entries'.lookup name)) :
    argumentFields? entries = argumentFields? entries' := by
  unfold argumentFields?
  rw [field?_eq Value.Same.asText?_eq (hrel "dsn" (by decide)),
    field?_eq Value.Same.asHost?_eq (hrel "host" (by decide)),
    field?_eq Value.Same.asPort?_eq (hrel "port" (by decide)),
    field?_eq Value.Same.asText?_eq (hrel "user" (by decide)),
    field?_eq Value.Same.asText?_eq (hrel "password" (by decide)),
    field?_eq Value.Same.asText?_eq (hrel "database" (by decide)),
    field?_eq Value.Same.asSeconds?_eq (hrel "connect_timeout" (by decide))]

/-- Server settings are none of the arguments that are read on the spot. -/
theorem serverSettings_of_argumentFields {args : Arguments}
    (h : argumentFields? entries = some args) : args.serverSettings = none := by
  obtain ⟨dsn, -, h⟩ := Option.bind_eq_some_iff.mp h
  obtain ⟨host, -, h⟩ := Option.bind_eq_some_iff.mp h
  obtain ⟨port, -, h⟩ := Option.bind_eq_some_iff.mp h
  obtain ⟨user, -, h⟩ := Option.bind_eq_some_iff.mp h
  obtain ⟨password, -, h⟩ := Option.bind_eq_some_iff.mp h
  obtain ⟨database, -, h⟩ := Option.bind_eq_some_iff.mp h
  obtain ⟨connectTimeout, -, h⟩ := Option.bind_eq_some_iff.mp h
  cases h
  rfl

theorem keysAmong_iff {names : List String} :
    keysAmong names entries = true ↔ ∀ key, entries.lookup key ≠ none → key ∈ names := by
  unfold keysAmong
  rw [List.all_eq_true]
  constructor
  · intro h key hkey
    obtain ⟨value, hvalue⟩ := Option.ne_none_iff_exists'.mp hkey
    obtain ⟨before, after, rfl, -⟩ := List.lookup_eq_some_iff.mp hvalue
    simpa using h (key, value) (List.mem_append_right _ List.mem_cons_self)
  · intro h e he
    have hkey : entries.lookup e.1 ≠ none := by
      intro hnone
      simpa using List.lookup_eq_none_iff.mp hnone e he
    simpa using h e.1 hkey

theorem eq_none_iff_of_rel {R : Value → Value → Prop} {found found' : Option Value}
    (hrel : Option.Rel R found found') : found = none ↔ found' = none := by
  cases hrel with
  | none => simp
  | some _ => simp

/-- Neither do the keys. -/
theorem keysAmong_iff_of_same {names : List String}
    (hrel : ∀ key, Option.Rel Value.Same (entries.lookup key) (entries'.lookup key)) :
    keysAmong names entries = true ↔ keysAmong names entries' = true := by
  simp only [keysAmong_iff, ne_eq, fun key => eq_none_iff_of_rel (hrel key)]

/-- The keys of a connection without a timeout are those of its arguments. -/
theorem keysAmong_fieldNames_iff (htimeout : entries.lookup "command_timeout" = none) :
    keysAmong Configuration.fieldNames entries = true ↔ keysAmong argumentNames entries = true := by
  have hnames : ∀ key, key ∈ Configuration.fieldNames ↔
      key ∈ argumentNames ∨ key = "command_timeout" := by
    intro key
    simp only [Configuration.fieldNames, argumentNames, List.mem_cons, List.not_mem_nil, or_false]
    tauto
  rw [keysAmong_iff, keysAmong_iff]
  simp only [hnames]
  constructor
  · intro h key hkey
    rcases h key hkey with hname | rfl
    · exact hname
    · exact absurd htimeout hkey
  · exact fun h key hkey => Or.inl (h key hkey)

end Toml

/-! ## Server settings -/

namespace Settings

open Toml (Value)
open TextMap (KeysDistinct)

variable {entries entries' : List (String × Value)} {found found' : Option Value}
  {settings : Option (TextMap String)}

theorem rel_swap {R : Value → Value → Prop} (h : Option.Rel R found found') :
    Option.Rel (fun v v' => R v' v) found' found := by
  cases h with
  | none => exact .none
  | some h => exact .some h

/-- The settings of a table do not depend on the order of its keys. -/
theorem of_iff_of_same {settings : TextMap String}
    (hrel : ∀ key, Option.Rel Value.Same (entries.lookup key) (entries'.lookup key)) :
    Of entries settings ↔ Of entries' settings := by
  constructor
  · intro h
    refine h.of_rel ?_ fun key => rel_swap (hrel key)
    intro v text hsame
    cases hsame
    rfl
  · intro h
    refine h.of_rel ?_ hrel
    intro v text hsame
    cases hsame
    rfl

theorem given_iff_of_same (hrel : Option.Rel Value.Same found found') :
    Given found settings ↔ Given found' settings := by
  cases hrel with
  | none => exact Iff.rfl
  | some hsame =>
    cases hsame with
    | string _ | integer _ | float _ | boolean _ | datetime _ => exact Iff.rfl
    | array _ =>
      constructor
      · intro h
        cases h
      · intro h
        cases h
    | table each =>
      constructor
      · intro h
        cases h with
        | table settings_of => exact .table ((of_iff_of_same each).mp settings_of)
      · intro h
        cases h with
        | table settings_of => exact .table ((of_iff_of_same each).mpr settings_of)

/-- **Read on the spot**, the field gives the settings of its table; only a date-time may pass for
one. -/
theorem field?_asSettings?_eq_some_iff (hdistinct : (Value.table entries).Distinct) {name : String}
    (hdatetime : ∀ d, entries.lookup name ≠ some (.datetime d)) :
    Toml.field? entries name Value.asSettings? = some settings
      ↔ Given (entries.lookup name) settings := by
  unfold Toml.field?
  cases hfound : entries.lookup name with
  | none =>
    constructor
    · intro h
      cases h
      exact .absent
    · intro h
      cases h
      rfl
  | some v =>
    dsimp only
    cases v with
    | string _ | integer _ | float _ | boolean _ | array _ =>
      constructor
      · intro h
        cases h
      · intro h
        cases h
    | datetime d => exact absurd hfound (hdatetime d)
    | table table =>
      have hkeys : KeysDistinct table := (hdistinct.of_lookup hfound).keys
      rw [Option.map_eq_some_iff]
      constructor
      · rintro ⟨settings, hsettings, rfl⟩
        exact .table ((asSettings?_table_eq_some_iff hkeys).mp hsettings)
      · intro h
        cases h with
        | table settings_of =>
          exact ⟨_, (asSettings?_table_eq_some_iff hkeys).mpr settings_of, rfl⟩

/-- **Kept for later**, it gives them as well, unless the table has a date-time's key in front. -/
theorem exists_field?_restored_given_iff (hdistinct : (Value.table entries).Distinct)
    {name : String} (hfirst : ∀ table, entries.lookup name = some (.table table) →
      ∀ e ∈ table.head?, e.1 ≠ Toml.privateKey) :
    (∃ kept, Toml.field? entries name Value.restored? = some kept ∧ Given kept settings)
      ↔ Given (entries.lookup name) settings := by
  unfold Toml.field?
  cases hfound : entries.lookup name with
  | none => simp
  | some v =>
    have hkept : (∃ kept, v.restored?.map some = some kept ∧ Given kept settings)
        ↔ ∃ v', RestoresTo v v' ∧ Given (some v') settings := by
      simp only [Option.map_eq_some_iff]
      constructor
      · rintro ⟨kept, ⟨v', hv', rfl⟩, hgiven⟩
        exact ⟨v', hv', hgiven⟩
      · rintro ⟨v', hv', hgiven⟩
        exact ⟨some v', ⟨v', hv', rfl⟩, hgiven⟩
    dsimp only
    rw [hkept]
    by_cases htable : ∃ table, v = .table table
    · obtain ⟨table, rfl⟩ := htable
      exact exists_restored_given_iff (hdistinct.of_lookup hfound).keys (hfirst table hfound)
    · -- nothing else is restored to a table
      constructor
      · rintro ⟨v', hv', hgiven⟩
        cases hgiven with
        | table _ => exact absurd hv'.exists_table htable
      · intro hgiven
        cases hgiven with
        | table _ => exact absurd ⟨_, rfl⟩ htable

end Settings

/-! ## The two readers -/

namespace Arguments

variable {entries : List (String × Toml.Value)} {a : Arguments}

/-- A document of its own is read field by field. -/
theorem ofEntries?_eq_some_iff (hdistinct : (Toml.Value.table entries).Distinct)
    (hdatetime : ∀ d, entries.lookup "server_settings" ≠ some (.datetime d)) :
    ofEntries? entries = some a ↔ Toml.keysAmong Toml.argumentNames entries = true ∧
      ∃ args settings, Toml.argumentFields? entries = some args ∧
        Settings.Given (entries.lookup "server_settings") settings ∧
        a = { args with serverSettings := settings } := by
  simp only [← Settings.field?_asSettings?_eq_some_iff hdistinct hdatetime]
  unfold ofEntries?
  constructor
  · intro h
    split at h
    next hkeys =>
      obtain ⟨args, hargs, h⟩ := Option.bind_eq_some_iff.mp h
      obtain ⟨settings, hsettings, h⟩ := Option.bind_eq_some_iff.mp h
      cases h
      exact ⟨hkeys, args, settings, hargs, hsettings, rfl⟩
    next => cases h
  · rintro ⟨hkeys, args, settings, hargs, hsettings, rfl⟩
    rw [if_pos hkeys, hargs, hsettings]
    rfl

end Arguments

namespace Configuration

variable {text : String} {c : Configuration} {entries : List (String × Toml.Value)}

/-- A document is read when it can be decoded and its server settings are checked. -/
theorem ofText_eq_ok_iff :
    ofText text = .ok c ↔ ∃ draft, Draft.ofDocument? text = some draft ∧ ofDraft draft = .ok c := by
  unfold ofText
  cases Draft.ofDocument? text with
  | none => simp
  | some draft => simp [mapError_eq_ok_iff]

/-- Whatever the form of a connection, its fields are read by name. -/
theorem Draft.ofValue?_eq_some_iff {value : Toml.Value} {draft : Draft} :
    ofValue? value = some draft ↔ ∃ fields args commandTimeout serverSettings,
      fields? value = some fields ∧ Toml.argumentFields? fields = some args ∧
      Toml.field? fields "command_timeout" Toml.Value.asCommandTimeout? = some commandTimeout ∧
      Toml.field? fields "server_settings" Toml.Value.restored? = some serverSettings ∧
      draft = ⟨{ args, commandTimeout }, serverSettings⟩ := by
  constructor
  · intro h
    obtain ⟨fields, hfields, h⟩ := Option.bind_eq_some_iff.mp h
    obtain ⟨args, hargs, h⟩ := Option.bind_eq_some_iff.mp h
    obtain ⟨commandTimeout, htimeout, h⟩ := Option.bind_eq_some_iff.mp h
    obtain ⟨serverSettings, hsettings, h⟩ := Option.bind_eq_some_iff.mp h
    cases h
    exact ⟨fields, args, commandTimeout, serverSettings, hfields, hargs, htimeout, hsettings, rfl⟩
  · rintro ⟨fields, args, commandTimeout, serverSettings, hfields, hargs, htimeout, hsettings, rfl⟩
    unfold ofValue?
    rw [hfields]
    show (Toml.argumentFields? fields >>= _) = _
    rw [hargs, htimeout, hsettings]
    rfl

/-- Every value in the fields of a connection has distinct keys. -/
theorem distinct_of_fields {value v : Toml.Value} (hdistinct : value.Distinct)
    {fields : List (String × Toml.Value)} (hfields : fields? value = some fields) {name : String}
    (hlookup : fields.lookup name = some v) : v.Distinct := by
  unfold fields? at hfields
  split at hfields
  next entries =>
    split at hfields
    next =>
      cases hfields
      exact hdistinct.of_lookup hlookup
    next => cases hfields
  next elements =>
    -- the fields are elements of the array
    cases hfields
    obtain ⟨before, after, hzip, -⟩ := List.lookup_eq_some_iff.mp hlookup
    have hmem : (name, v) ∈ fieldNames.zip elements := by
      rw [hzip]
      exact List.mem_append_right _ List.mem_cons_self
    cases hdistinct with
    | array each => exact each v (List.of_mem_zip hmem).2
  next => cases hfields

/-- What is known of the server settings in a decoded document: they are not among the arguments
yet, and where they are a table its keys are distinct. -/
structure Draft.Unsettled (draft : Draft) : Prop where
  args : draft.configuration.args.serverSettings = none
  keys : ∀ entries, draft.serverSettings = some (.table entries) → TextMap.KeysDistinct entries

theorem Draft.unsettled_of_ofValue {value : Toml.Value} (hdistinct : value.Distinct) {draft : Draft}
    (h : ofValue? value = some draft) : draft.Unsettled := by
  obtain ⟨fields, args, commandTimeout, serverSettings, hfields, hargs, -, hsettings, rfl⟩ :=
    ofValue?_eq_some_iff.mp h
  refine ⟨Toml.serverSettings_of_argumentFields hargs, ?_⟩
  intro entries hentries
  obtain rfl : serverSettings = some (.table entries) := hentries
  unfold Toml.field? at hsettings
  split at hsettings
  next => cases hsettings
  next v hlookup =>
    obtain ⟨v', hrestored, heq⟩ := Option.map_eq_some_iff.mp hsettings
    cases heq
    have hv : v.Distinct := distinct_of_fields hdistinct hfields hlookup
    have hrestores : Settings.RestoresTo v (.table entries) := hrestored
    exact hrestores.keysDistinct fun table htable => (htable ▸ hv).keys

theorem Draft.unsettled_of_ofDocument {draft : Draft} (h : ofDocument? text = some draft) :
    draft.Unsettled := by
  obtain ⟨root, hroot, h⟩ := Option.bind_eq_some_iff.mp h
  split at h
  next =>
    cases h
    exact ⟨rfl, fun entries hentries => by cases hentries⟩
  next value hlookup =>
    exact unsettled_of_ofValue ((Toml.distinct_of_parse hroot).of_lookup hlookup) h

/-- **Checking** a decoded document puts the server settings among its arguments. -/
theorem ofDraft_eq {draft : Draft} (h : draft.Unsettled) :
    ofDraft draft = (Settings.check draft.serverSettings).map fun settings =>
      { draft.configuration with
        args := { draft.configuration.args with serverSettings := settings } } := by
  unfold ofDraft
  obtain ⟨⟨args, commandTimeout⟩, serverSettings⟩ := draft
  obtain ⟨hargs, -⟩ := h
  dsimp only at hargs ⊢
  cases serverSettings with
  | none =>
    rw [Settings.check, map_ok, ← hargs]
  | some value =>
    rw [Settings.check]
    dsimp only
    cases Settings.ofToml value with
    | error e => rfl
    | ok settings => rfl

theorem fields?_table_eq_some_iff {entries fields : List (String × Toml.Value)} :
    fields? (.table entries) = some fields
      ↔ Toml.keysAmong fieldNames entries = true ∧ fields = entries := by
  unfold fields?
  dsimp only
  by_cases hkeys : Toml.keysAmong fieldNames entries = true
  · simp [hkeys, eq_comm]
  · simp [hkeys]

variable {root entries : List (String × Toml.Value)}

theorem Draft.ofDocument?_eq_ofValue? (hdocument : Toml.parse? text = some root)
    {value : Toml.Value} (hconnection : root.lookup "connection" = some value) :
    ofDocument? text = ofValue? value := by
  unfold ofDocument?
  rw [hdocument]
  simp only [Option.bind_eq_bind, Option.bind_some, hconnection]

/-- The table `connection` of a document is read field by field, too. -/
theorem ofText_table_eq_ok_iff (hdocument : Toml.parse? text = some root)
    (hconnection : root.lookup "connection" = some (.table entries))
    (htimeout : entries.lookup "command_timeout" = none)
    (hfirst : ∀ table, entries.lookup "server_settings" = some (.table table) →
      ∀ e ∈ table.head?, e.1 ≠ Toml.privateKey) :
    ofText text = .ok c ↔ Toml.keysAmong Toml.argumentNames entries = true ∧
      ∃ args settings, Toml.argumentFields? entries = some args ∧
        Settings.Given (entries.lookup "server_settings") settings ∧
        c = { args := { args with serverSettings := settings }, commandTimeout := none } := by
  have hdistinct : (Toml.Value.table entries).Distinct :=
    (Toml.distinct_of_parse hdocument).of_lookup hconnection
  have hnone : Toml.field? entries "command_timeout" Toml.Value.asCommandTimeout? = some none := by
    unfold Toml.field?
    rw [htimeout]
  have hsettings : ∀ settings, Settings.Given (entries.lookup "server_settings") settings ↔
      ∃ kept, Toml.field? entries "server_settings" Toml.Value.restored? = some kept ∧
        Settings.Given kept settings := fun _ =>
    (Settings.exists_field?_restored_given_iff hdistinct hfirst).symm
  rw [ofText_eq_ok_iff, Draft.ofDocument?_eq_ofValue? hdocument hconnection,
    ← Toml.keysAmong_fieldNames_iff htimeout]
  constructor
  · rintro ⟨draft, hdraft, hc⟩
    have hunsettled := Draft.unsettled_of_ofValue hdistinct hdraft
    obtain ⟨fields, args, commandTimeout, kept, hfields, hargs, hfound, hkept, rfl⟩ :=
      Draft.ofValue?_eq_some_iff.mp hdraft
    obtain ⟨hkeys, rfl⟩ := fields?_table_eq_some_iff.mp hfields
    obtain rfl : none = commandTimeout := Option.some.inj (hnone.symm.trans hfound)
    rw [ofDraft_eq hunsettled] at hc
    obtain ⟨settings, hchecked, rfl⟩ := map_eq_ok_iff.mp hc
    have hgiven := (Settings.check_eq_ok_iff hunsettled.keys).mp hchecked
    exact ⟨hkeys, args, settings, hargs, (hsettings settings).mpr ⟨kept, hkept, hgiven⟩, rfl⟩
  · rintro ⟨hkeys, args, settings, hargs, hgiven, rfl⟩
    obtain ⟨kept, hkept, hgiven⟩ := (hsettings settings).mp hgiven
    have hdraft : Draft.ofValue? (.table entries) = some ⟨{ args }, kept⟩ :=
      Draft.ofValue?_eq_some_iff.mpr ⟨entries, args, none, kept,
        fields?_table_eq_some_iff.mpr ⟨hkeys, rfl⟩, hargs, hnone, hkept, rfl⟩
    have hunsettled := Draft.unsettled_of_ofValue hdistinct hdraft
    refine ⟨_, hdraft, ?_⟩
    rw [ofDraft_eq hunsettled, (Settings.check_eq_ok_iff hunsettled.keys).mpr hgiven]
    rfl

/-- What is taken for a date-time is no server settings. -/
theorem ofText_ne_ok_of_privateKey (hdocument : Toml.parse? text = some root)
    (hconnection : root.lookup "connection" = some (.table entries)) {value : Toml.Value}
    {table : List (String × Toml.Value)}
    (hsettings : entries.lookup "server_settings"
      = some (.table ((Toml.privateKey, value) :: table))) : ofText text ≠ .ok c := by
  intro h
  obtain ⟨draft, hdraft, hc⟩ := ofText_eq_ok_iff.mp h
  rw [Draft.ofDocument?_eq_ofValue? hdocument hconnection] at hdraft
  obtain ⟨fields, args, commandTimeout, kept, hfields, -, -, hkept, rfl⟩ :=
    Draft.ofValue?_eq_some_iff.mp hdraft
  obtain ⟨-, rfl⟩ := fields?_table_eq_some_iff.mp hfields
  unfold Toml.field? at hkept
  rw [hsettings] at hkept
  obtain ⟨v, hrestored, rfl⟩ := Option.map_eq_some_iff.mp hkept
  obtain ⟨d, rfl⟩ := Settings.restored?_of_privateKey hrestored
  cases hc

end Configuration

/-- **The two readers agree.** One and the same table is a document of its own, or the connection of
another document, with its keys in any order; it has no command timeout, and its server settings are
no date-time. Then the second reader gives the arguments that the first one gives, and no timeout;
and it fails where the first one does. The exception are server settings whose first key is the one
that carries date-times: the second reader takes them for a date-time, and fails. -/
theorem connection_as_arguments {text document : String}
    {entries entries' root : List (String × Toml.Value)} (htext : Toml.parse? text = some entries)
    (hdocument : Toml.parse? document = some root)
    (hconnection : root.lookup "connection" = some (.table entries'))
    (hsame : (Toml.Value.table entries).Same (.table entries'))
    (htimeout : entries.lookup "command_timeout" = none)
    (hdatetime : ∀ d, entries.lookup "server_settings" ≠ some (.datetime d)) :
    ((∀ table, entries'.lookup "server_settings" = some (.table table) →
        ∀ e ∈ table.head?, e.1 ≠ Toml.privateKey) →
      ∀ c, Configuration.ofText document = .ok c ↔
        ∃ a, Arguments.ofDocument? text = some a ∧ c = { args := a, commandTimeout := none }) ∧
    ∀ value table,
      entries'.lookup "server_settings" = some (.table ((Toml.privateKey, value) :: table)) →
      ∀ c, Configuration.ofText document ≠ .ok c := by
  have hrel : ∀ key, Option.Rel Toml.Value.Same (entries.lookup key) (entries'.lookup key) := by
    cases hsame with
    | table each => exact each
  constructor
  · intro hfirst c
    have htimeout' : entries'.lookup "command_timeout" = none :=
      (Toml.eq_none_iff_of_rel (hrel "command_timeout")).mp htimeout
    rw [Configuration.ofText_table_eq_ok_iff hdocument hconnection htimeout' hfirst,
      Arguments.ofDocument?, htext, Option.bind_some]
    -- what is read of the fields does not depend on their order
    simp only [Arguments.ofEntries?_eq_some_iff (Toml.distinct_of_parse htext) hdatetime,
      Toml.keysAmong_iff_of_same hrel, Toml.argumentFields?_eq fun name _ => hrel name,
      Settings.given_iff_of_same (hrel "server_settings")]
    constructor
    · rintro ⟨hkeys, args, settings, hargs, hgiven, rfl⟩
      exact ⟨_, ⟨hkeys, args, settings, hargs, hgiven, rfl⟩, rfl⟩
    · rintro ⟨a, ⟨hkeys, args, settings, hargs, hgiven, rfl⟩, rfl⟩
      exact ⟨hkeys, args, settings, hargs, hgiven, rfl⟩
  · intro value table hsettings c
    exact Configuration.ofText_ne_ok_of_privateKey hdocument hconnection hsettings

/-- A document of its own, and another document that names the same fields in another order. -/
theorem connection_as_arguments_of_reordered :
    let text := "user = \"u\"\nport = [1, 2]\n[server_settings]\nk = \"v\""
    let document :=
      "[connection.server_settings]\nk = \"v\"\n[other]\n[connection]\nport = [1, 2]\nuser = \"u\""
    let args : Arguments := {
      user := some "u"
      port := some (.list [1, 2])
      serverSettings := some (.ofList [("k", "v")]) }
    Arguments.ofDocument? text = some args ∧
      Configuration.ofText document = .ok { args, commandTimeout := none } := by
  intro text document args
  have htext : Toml.parse? text = some [("user", .string "u"),
      ("port", .array [.integer 1, .integer 2]),
      ("server_settings", .table [("k", .string "v")])] := by
    decide +kernel
  have hdocument : Toml.parse? document = some [("other", .table []),
      ("connection", .table [("server_settings", .table [("k", .string "v")]),
        ("port", .array [.integer 1, .integer 2]), ("user", .string "u")])] := by
    decide +kernel
  have hargs : Arguments.ofDocument? text = some args := by decide +kernel
  have hsame : (Toml.Value.table [("user", .string "u"), ("port", .array [.integer 1, .integer 2]),
        ("server_settings", .table [("k", .string "v")])]).Same
      (.table [("server_settings", .table [("k", .string "v")]),
        ("port", .array [.integer 1, .integer 2]), ("user", .string "u")]) :=
    .of_perm (Toml.distinct_of_parse htext).keys (by decide +kernel)
  have hdatetime : ∀ d, some (Toml.Value.table [("k", .string "v")]) ≠ some (.datetime d) := nofun
  obtain ⟨hread, -⟩ := connection_as_arguments htext hdocument rfl hsame rfl hdatetime
  refine ⟨hargs, (hread ?_ _).mpr ⟨args, hargs, rfl⟩⟩
  intro table htable e he
  obtain rfl : [("k", Toml.Value.string "v")] = table :=
    Toml.Value.table.inj (Option.some.inj htable)
  obtain rfl : ("k", Toml.Value.string "v") = e := Option.some.inj he
  decide

/-- Server settings whose first key is the one that carries date-times are read in a document of
their own, and refused in another one. -/
theorem private_key_is_taken_for_datetime :
    ¬ ∀ (text document : String) (entries entries' root : List (String × Toml.Value)),
      Toml.parse? text = some entries → Toml.parse? document = some root →
      root.lookup "connection" = some (.table entries') →
      (Toml.Value.table entries).Same (.table entries') →
      entries.lookup "command_timeout" = none →
      (∀ d, entries.lookup "server_settings" ≠ some (.datetime d)) →
      ∀ c, Configuration.ofText document = .ok c ↔
        ∃ a, Arguments.ofDocument? text = some a ∧ c = { args := a, commandTimeout := none } := by
  intro h
  let text := "server_settings = \x7b \"$__toml_private_datetime\" = \"24:00:00\" \x7d"
  let document :=
    "[connection]\nserver_settings = \x7b \"$__toml_private_datetime\" = \"24:00:00\" \x7d"
  let entries : List (String × Toml.Value) :=
    [("server_settings", .table [("$__toml_private_datetime", .string "24:00:00")])]
  let args : Arguments :=
    { serverSettings := some (.ofList [("$__toml_private_datetime", "24:00:00")]) }
  have htext : Toml.parse? text = some entries := by decide +kernel
  have hdocument : Toml.parse? document = some [("connection", .table entries)] := by
    decide +kernel
  have hargs : Arguments.ofDocument? text = some args := by decide +kernel
  have hfault : Configuration.ofText document = .error .malformedDocument := by decide +kernel
  have hdatetime : ∀ d, entries.lookup "server_settings" ≠ some (.datetime d) := by
    intro d hd
    exact Toml.Value.noConfusion (Option.some.inj hd)
  have hread := (h text document entries entries _ htext hdocument rfl (.refl _) rfl hdatetime
    { args, commandTimeout := none }).mpr ⟨args, hargs, rfl⟩
  rw [hfault] at hread
  cases hread

end SessionPlan
