/-
Server settings as a table of strings.

Settings are read from a table in two ways: on the spot, or from a value that was kept as it is, in
which the tables that carry date-times were turned into those. Either way they are the strings of
the table, key by key, and every entry has to be one. The two ways differ in a date-time, which
passes for the table that carries it, and in a table whose first key is that of such a table.

In the second way a value is refused with a fault that names its type, or else the least key whose
entry is no string.
-/
import SessionPlan.Proofs.DistinctKeys
import SessionPlan.Proofs.Outcome
import SessionPlan.Toml.Arguments

set_option autoImplicit false

namespace SessionPlan

open Toml (Value)
open TextMap (KeysDistinct)

namespace Settings

/-! ## The settings of a table -/

/-- The settings of a table: at each key the string that the table has there, and nothing at any
other key. -/
def Of (entries : List (String × Value)) (settings : TextMap String) : Prop :=
  ∀ key, entries.lookup key = (settings.get? key).map Value.string

/-- The entry of a setting. -/
def entryOf (setting : String × String) : String × Value := (setting.1, .string setting.2)

variable {entries entries' : List (String × Value)} {settings settings' : TextMap String}

/-- A table has one map of settings at most. -/
theorem Of.unique (h : Of entries settings) (h' : Of entries settings') : settings = settings' := by
  apply TextMap.ext_get?
  intro key
  have hkey : (settings.get? key).map Value.string = (settings'.get? key).map Value.string :=
    (h key).symm.trans (h' key)
  exact Option.map_injective (fun _ _ hstring => Value.string.inj hstring) hkey

/-- Every entry of a table with settings is a string. -/
theorem Of.string (hdistinct : KeysDistinct entries) (h : Of entries settings)
    {e : String × Value} (he : e ∈ entries) : ∃ text, e.2 = .string text := by
  have hlookup : entries.lookup e.1 = some e.2 := (TextMap.lookup_eq_some_iff_mem hdistinct).mpr he
  rw [h e.1] at hlookup
  obtain ⟨text, -, htext⟩ := Option.map_eq_some_iff.mp hlookup
  exact ⟨text, htext.symm⟩

theorem eq_map_string_of_rel {R : Value → Value → Prop}
    (hR : ∀ v text, R v (.string text) → v = .string text) {found : Option Value}
    {text? : Option String} (h : Option.Rel R found (text?.map .string)) :
    found = text?.map .string := by
  cases text? with
  | none =>
    cases found with
    | none => rfl
    | some v => cases h
  | some text =>
    cases found with
    | none => cases h
    | some v =>
      cases h with
      | some hv => rw [hR v text hv, Option.map_some]

/-- **Settings of a related table.** If only a string is related to a string, tables that are related
key by key have the same settings. -/
theorem Of.of_rel {R : Value → Value → Prop} (hR : ∀ v text, R v (.string text) → v = .string text)
    (hrel : ∀ key, Option.Rel R (entries.lookup key) (entries'.lookup key))
    (h : Of entries' settings) : Of entries settings := by
  intro key
  apply eq_map_string_of_rel hR
  rw [← h key]
  exact hrel key

/-- The settings of a list of settings are their values, key by key. -/
theorem of_map_entryOf {pairs : List (String × String)}
    (h : ∀ key, settings.get? key = pairs.lookup key) : Of (pairs.map entryOf) settings := by
  intro key
  rw [h key]
  exact TextMap.lookup_map Value.string pairs key

theorem exists_map_entryOf (h : ∀ e ∈ entries, ∃ text, e.2 = .string text) :
    ∃ pairs : List (String × String), entries = pairs.map entryOf := by
  induction entries with
  | nil => exact ⟨[], rfl⟩
  | cons e entries ih =>
    obtain ⟨⟨text, htext⟩, hrest⟩ := List.forall_mem_cons.mp h
    obtain ⟨pairs, hpairs⟩ := ih hrest
    refine ⟨(e.1, text) :: pairs, ?_⟩
    rw [List.map_cons, ← hpairs, entryOf, ← htext]

/-- The settings that a field gives, if it is there: those of its table. -/
inductive Given : Option Value → Option (TextMap String) → Prop
  | absent : Given none none
  | table {entries : List (String × Value)} {settings : TextMap String}
      (settings_of : Of entries settings) : Given (some (.table entries)) (some settings)

/-! ## From a value that was kept -/

/-- The fault of an entry that is no string. -/
def notString (key : String) (value : Value) : ParameterError :=
  .invalidServerSettings
    ("value of " ++ Text.quoted key ++ " is a " ++ value.typeName ++ ", not a string")

/-- What is wrong with a value that holds no settings: it is no table, or an entry of it is no
string. Of such entries the one with the least key counts. -/
inductive Fault : Value → ParameterError → Prop
  | shape {value : Value} (ne : ∀ entries, value ≠ .table entries) :
      Fault value (.invalidServerSettings ("expected a table, got " ++ value.typeName))
  | entry {entries : List (String × Value)} {key : String} {value : Value}
      (mem : (key, value) ∈ entries) (lacks : ∀ text, value ≠ .string text)
      (least : ∀ e ∈ entries, e.1 < key → ∃ text, e.2 = .string text) :
      Fault (.table entries) (notString key value)

/-- The setting in an entry. -/
def readEntry (e : String × Value) : Except ParameterError (String × String) :=
  match e.2 with
  | .string text => .ok (e.1, text)
  | value => .error (notString e.1 value)

theorem readEntry_eq_ok_iff {e : String × Value} {setting : String × String} :
    readEntry e = .ok setting ↔ e = entryOf setting := by
  obtain ⟨key, value⟩ := e
  unfold readEntry
  split
  next text htext =>
    obtain rfl : value = .string text := htext
    constructor
    · intro h
      rw [← Except.ok.inj h]
      rfl
    · intro h
      cases h
      rfl
  next hlacks =>
    constructor
    · intro h
      cases h
    · intro h
      exact absurd (congrArg Prod.snd h) (hlacks setting.2)

theorem readEntry_eq_error_iff {e : String × Value} {fault : ParameterError} :
    readEntry e = .error fault ↔ (∀ text, e.2 ≠ .string text) ∧ fault = notString e.1 e.2 := by
  unfold readEntry
  split
  next text htext =>
    constructor
    · intro h
      cases h
    · intro h
      exact absurd htext (h.1 text)
  next hlacks =>
    constructor
    · intro h
      exact ⟨hlacks, (Except.error.inj h).symm⟩
    · intro h
      rw [h.2]

/-- The entries are read in one pass; the first entry of a key counts. -/
theorem ofEntries_eq_mapM (l : List (String × Value)) :
    ofEntries l
      = (l.mapM readEntry).map (List.foldr (fun s m => m.insert s.1 s.2) TextMap.empty) := by
  induction l with
  | nil => rfl
  | cons e l ih =>
    obtain ⟨key, value⟩ := e
    rw [List.mapM_cons, map_of_bind]
    unfold ofEntries
    split
    next heq => cases heq
    next heq =>
      cases heq
      rw [ih, readEntry, ok_bind, map_of_bind, map_eq_bind, bind_of_map]
      rfl
    next hlacks heq =>
      cases heq
      have hfault : readEntry (key, value) = .error (notString key value) :=
        readEntry_eq_error_iff.mpr ⟨fun text => hlacks text, rfl⟩
      rw [hfault]
      rfl

theorem get?_foldr_insert (pairs : List (String × String)) (key : String) :
    (pairs.foldr (fun s m => m.insert s.1 s.2) TextMap.empty).get? key = pairs.lookup key := by
  induction pairs with
  | nil => rfl
  | cons pair pairs ih =>
    rw [List.foldr_cons, TextMap.get?_insert, TextMap.lookup_cons_eq, ih]

theorem ofEntries_eq_ok_iff :
    ofEntries entries = .ok settings
      ↔ Of entries settings ∧ ∀ e ∈ entries, ∃ text, e.2 = .string text := by
  have hread : ∀ pairs, entries.mapM readEntry = .ok pairs ↔ entries = pairs.map entryOf := by
    intro pairs
    simp only [mapM_eq_ok_iff, readEntry_eq_ok_iff]
    rw [← List.forall₂_eq_eq_eq, List.forall₂_map_right_iff]
  rw [ofEntries_eq_mapM, map_eq_ok_iff]
  constructor
  · rintro ⟨pairs, hpairs, rfl⟩
    rw [(hread pairs).mp hpairs]
    refine ⟨of_map_entryOf (get?_foldr_insert pairs), ?_⟩
    intro e he
    obtain ⟨pair, -, rfl⟩ := List.mem_map.mp he
    exact ⟨pair.2, rfl⟩
  · rintro ⟨hof, hstrings⟩
    obtain ⟨pairs, rfl⟩ := exists_map_entryOf hstrings
    exact ⟨pairs, (hread pairs).mpr rfl, (of_map_entryOf (get?_foldr_insert pairs)).unique hof⟩

theorem ofEntries_eq_error_iff {fault : ParameterError} :
    ofEntries entries = .error fault ↔ ∃ before key value after,
      entries = before ++ (key, value) :: after ∧ (∀ e ∈ before, ∃ text, e.2 = .string text) ∧
      (∀ text, value ≠ .string text) ∧ fault = notString key value := by
  have hstring : ∀ e, (∃ setting, readEntry e = .ok setting) ↔ ∃ text, e.2 = .string text := by
    intro e
    simp only [readEntry_eq_ok_iff]
    constructor
    · rintro ⟨setting, rfl⟩
      exact ⟨setting.2, rfl⟩
    · rintro ⟨text, htext⟩
      exact ⟨(e.1, text), Prod.ext rfl htext⟩
  rw [ofEntries_eq_mapM, map_eq_error_iff, mapM_eq_error_iff]
  simp only [hstring, readEntry_eq_error_iff, Prod.exists]

/-- **Settings from a table** are its settings. -/
theorem ofToml_table_eq_ok_iff (hdistinct : KeysDistinct entries) :
    ofToml (.table entries) = .ok settings ↔ Of entries settings := by
  have hlookup : ∀ key, (TextMap.ofList entries).entries.lookup key = entries.lookup key :=
    TextMap.get?_ofList_of_distinct hdistinct
  rw [ofToml, ofEntries_eq_ok_iff]
  unfold Of
  simp only [hlookup, TextMap.mem_entries_ofList_iff hdistinct]
  constructor
  · exact fun h => h.1
  · exact fun h => ⟨h, fun _ he => Of.string hdistinct h he⟩

/-- **Whatever has no settings has a fault**, and only one. -/
theorem ofToml_eq_error_iff {value : Value}
    (hdistinct : ∀ entries, value = .table entries → KeysDistinct entries)
    {fault : ParameterError} : ofToml value = .error fault ↔ Fault value fault := by
  by_cases htable : ∃ entries, value = .table entries
  · obtain ⟨entries, rfl⟩ := htable
    have hmem : ∀ e, e ∈ (TextMap.ofList entries).entries ↔ e ∈ entries := fun e =>
      TextMap.mem_entries_ofList_iff (hdistinct entries rfl)
    rw [ofToml, ofEntries_eq_error_iff]
    constructor
    · rintro ⟨before, key, value, after, hsplit, hbefore, hlacks, rfl⟩
      refine .entry ((hmem _).mp ?_) hlacks ?_
      · rw [hsplit]
        exact List.mem_append_right _ List.mem_cons_self
      · intro e he hlt
        exact hbefore e ((TextMap.mem_before_iff hsplit).mpr ⟨(hmem e).mpr he, hlt⟩)
    · intro h
      cases h with
      | shape ne => exact absurd rfl (ne entries)
      | @entry _ key value mem lacks least =>
        obtain ⟨before, after, hsplit⟩ := List.append_of_mem ((hmem _).mpr mem)
        refine ⟨before, key, value, after, hsplit, ?_, lacks, rfl⟩
        intro e he
        obtain ⟨he, hlt⟩ := (TextMap.mem_before_iff hsplit).mp he
        exact least e ((hmem e).mp he) hlt
  · have hne : ∀ entries, value ≠ .table entries := fun entries heq => htable ⟨entries, heq⟩
    have hfault : ofToml value
        = .error (.invalidServerSettings ("expected a table, got " ++ value.typeName)) := by
      unfold ofToml
      split
      next entries => exact absurd rfl (hne entries)
      next => rfl
    rw [hfault]
    constructor
    · intro h
      rw [← Except.error.inj h]
      exact .shape hne
    · intro h
      cases h with
      | shape _ => rfl
      | entry _ _ _ => exact absurd rfl (hne _)

/-- Checks what was kept of a field, if it is there. -/
def check : Option Value → Except ParameterError (Option (TextMap String))
  | none => .ok none
  | some value => (ofToml value).map some

variable {found : Option Value}

/-- **What is checked** is what the field gives. -/
theorem check_eq_ok_iff (hdistinct : ∀ entries, found = some (.table entries) → KeysDistinct entries)
    {settings : Option (TextMap String)} : check found = .ok settings ↔ Given found settings := by
  cases found with
  | none =>
    constructor
    · intro h
      cases h
      exact .absent
    · intro h
      cases h
      rfl
  | some value =>
    rw [check, map_eq_ok_iff]
    constructor
    · rintro ⟨settings, hsettings, rfl⟩
      -- only a table has settings
      unfold ofToml at hsettings
      split at hsettings
      next entries => exact .table ((ofToml_table_eq_ok_iff (hdistinct entries rfl)).mp hsettings)
      next => cases hsettings
    · intro h
      cases h with
      | @table entries settings settings_of =>
        exact ⟨settings, (ofToml_table_eq_ok_iff (hdistinct entries rfl)).mpr settings_of, rfl⟩

theorem check_eq_error_iff
    (hdistinct : ∀ entries, found = some (.table entries) → KeysDistinct entries)
    {fault : ParameterError} :
    check found = .error fault ↔ ∃ value, found = some value ∧ Fault value fault := by
  cases found with
  | none =>
    constructor
    · intro h
      cases h
    · rintro ⟨value, hvalue, -⟩
      cases hvalue
  | some value =>
    have hkeys : ∀ entries, value = .table entries → KeysDistinct entries := fun entries heq =>
      hdistinct entries (congrArg some heq)
    rw [check, map_eq_error_iff, ofToml_eq_error_iff hkeys]
    constructor
    · exact fun h => ⟨value, rfl, h⟩
    · rintro ⟨value', heq, h⟩
      cases heq
      exact h

/-! ## On the spot -/

theorem textEntry?_eq_some_iff {e : String × Value} {setting : String × String} :
    Toml.textEntry? e = some setting ↔ e = entryOf setting := by
  obtain ⟨key, value⟩ := e
  unfold Toml.textEntry? Value.asText?
  split
  next text htext =>
    obtain rfl : value = .string text := htext
    constructor
    · intro h
      rw [← Option.some.inj h]
      rfl
    · intro h
      cases h
      rfl
  next hlacks =>
    constructor
    · intro h
      cases h
    · intro h
      exact absurd (congrArg Prod.snd h) (hlacks setting.2)

theorem mapM_textEntry?_eq_some_iff {pairs : List (String × String)} :
    entries.mapM Toml.textEntry? = some pairs ↔ entries = pairs.map entryOf := by
  induction entries generalizing pairs with
  | nil =>
    rw [List.mapM_nil]
    cases pairs with
    | nil => simp
    | cons pair pairs => simp
  | cons e entries ih =>
    rw [List.mapM_cons]
    cases pairs with
    | nil => simp [Option.bind_eq_some_iff]
    | cons pair pairs =>
      simp only [Option.bind_eq_bind, Option.bind_eq_some_iff, textEntry?_eq_some_iff, ih,
        List.map_cons, List.cons.injEq]
      constructor
      · rintro ⟨setting, rfl, settings, rfl, heq⟩
        cases heq
        exact ⟨rfl, rfl⟩
      · rintro ⟨rfl, rfl⟩
        exact ⟨pair, rfl, pairs, rfl, rfl⟩

/-- **Settings from a table**, read on the spot, are its settings too. -/
theorem asSettings?_table_eq_some_iff (hdistinct : KeysDistinct entries) :
    (Value.table entries).asSettings? = some settings ↔ Of entries settings := by
  have hsettings : ∀ {pairs : List (String × String)}, entries = pairs.map entryOf →
      Of entries (TextMap.ofList pairs) := by
    rintro pairs rfl
    have hpairs : KeysDistinct pairs := by
      unfold KeysDistinct at hdistinct ⊢
      rwa [List.pairwise_map] at hdistinct
    exact of_map_entryOf (TextMap.get?_ofList_of_distinct hpairs)
  unfold Value.asSettings?
  rw [Option.map_eq_some_iff]
  constructor
  · rintro ⟨pairs, hpairs, rfl⟩
    exact hsettings (mapM_textEntry?_eq_some_iff.mp hpairs)
  · intro hof
    obtain ⟨pairs, hpairs⟩ := exists_map_entryOf fun _ he => hof.string hdistinct he
    exact ⟨pairs, mapM_textEntry?_eq_some_iff.mpr hpairs, (hsettings hpairs).unique hof⟩

/-! ## From a value that was restored -/

theorem restored?_cons (key : String) (value : Value) (entries : List (String × Value)) :
    (Value.table ((key, value) :: entries)).restored?
      = if key = Toml.privateKey then
          match value with
          | .string text => (Toml.DateTime.ofText? text.toList).map .datetime
          | _ => none
        else (Value.restoredEntries? ((key, value) :: entries)).map .table := by
  unfold Value.restored?
  rw [Value.restoredEntries?]
  -- both read the value, and then the other entries
  cases value.restored? with
  | none => rfl
  | some value =>
    cases Value.restoredEntries? entries with
    | none => rfl
    | some entries => rfl

/-- A table with a date-time's key in front carries one, or it carries nothing at all. -/
theorem restored?_of_privateKey {value v : Value}
    (h : (Value.table ((Toml.privateKey, value) :: entries)).restored? = some v) :
    ∃ d, v = .datetime d := by
  rw [restored?_cons, if_pos rfl] at h
  split at h
  next =>
    obtain ⟨d, -, rfl⟩ := Option.map_eq_some_iff.mp h
    exact ⟨d, rfl⟩
  next => cases h

/-- Every other table is restored entry by entry. -/
theorem restored?_table (hfirst : ∀ e ∈ entries.head?, e.1 ≠ Toml.privateKey) :
    (Value.table entries).restored? = (Value.restoredEntries? entries).map .table := by
  cases entries with
  | nil => rfl
  | cons e entries => exact (restored?_cons e.1 e.2 entries).trans (if_neg (hfirst e rfl))

/-- A value comes out of another one by restoring it. -/
def RestoresTo (v v' : Value) : Prop := v.restored? = some v'

theorem forall₂_of_restoredEntries (h : Value.restoredEntries? entries = some entries') :
    List.Forall₂ (fun e e' => e.1 = e'.1 ∧ RestoresTo e.2 e'.2) entries entries' := by
  induction entries generalizing entries' with
  | nil =>
    cases h
    exact .nil
  | cons e entries ih =>
    obtain ⟨key, value⟩ := e
    rw [Value.restoredEntries?] at h
    obtain ⟨restored, hvalue, h⟩ := Option.bind_eq_some_iff.mp h
    obtain ⟨rest, hrest, h⟩ := Option.bind_eq_some_iff.mp h
    cases h
    exact .cons ⟨rfl, hvalue⟩ (ih hrest)

/-- What a table is restored to: a date-time, or a table with the same keys. -/
theorem RestoresTo.of_table {v : Value} (h : RestoresTo (.table entries) v) :
    (∃ d, v = .datetime d) ∨ ∃ entries', v = .table entries' ∧
      List.Forall₂ (fun e e' => e.1 = e'.1 ∧ RestoresTo e.2 e'.2) entries entries' := by
  unfold RestoresTo at h
  by_cases hfirst : ∀ e ∈ entries.head?, e.1 ≠ Toml.privateKey
  · rw [restored?_table hfirst] at h
    obtain ⟨restored, hrestored, rfl⟩ := Option.map_eq_some_iff.mp h
    exact Or.inr ⟨restored, rfl, forall₂_of_restoredEntries hrestored⟩
  · cases entries with
    | nil => exact absurd (by simp) hfirst
    | cons e entries =>
      obtain ⟨key, value⟩ := e
      obtain rfl : key = Toml.privateKey := by simpa using hfirst
      exact Or.inl (restored?_of_privateKey h)

/-- Only a string is restored to a string. -/
theorem RestoresTo.eq_string {v : Value} {text : String} (h : RestoresTo v (.string text)) :
    v = .string text := by
  cases v with
  | string _ | integer _ | float _ | boolean _ | datetime _ => exact Option.some.inj h
  | array elements =>
    obtain ⟨restored, -, heq⟩ := Option.map_eq_some_iff.mp h
    cases heq
  | table entries =>
    rcases h.of_table with ⟨d, hd⟩ | ⟨restored, hrestored, -⟩
    · cases hd
    · cases hrestored

/-- Only a table is restored to a table. -/
theorem RestoresTo.exists_table {v : Value} (h : RestoresTo v (.table entries)) :
    ∃ entries, v = .table entries := by
  cases v with
  | string _ | integer _ | float _ | boolean _ | datetime _ => cases h
  | array elements =>
    obtain ⟨restored, -, heq⟩ := Option.map_eq_some_iff.mp h
    cases heq
  | table entries => exact ⟨entries, rfl⟩

/-- A restored table has the keys that it had before. -/
theorem RestoresTo.keysDistinct {v : Value} (h : RestoresTo v (.table entries))
    (hdistinct : ∀ entries, v = .table entries → KeysDistinct entries) : KeysDistinct entries := by
  obtain ⟨before, rfl⟩ := h.exists_table
  rcases h.of_table with ⟨d, hd⟩ | ⟨restored, hrestored, hentries⟩
  · cases hd
  · cases hrestored
    exact (hdistinct before rfl).of_forall₂ hentries

theorem restoredEntries?_of_strings (h : ∀ e ∈ entries, ∃ text, e.2 = .string text) :
    Value.restoredEntries? entries = some entries := by
  induction entries with
  | nil => rfl
  | cons e entries ih =>
    obtain ⟨key, value⟩ := e
    obtain ⟨⟨text, rfl⟩, hrest⟩ := List.forall_mem_cons.mp h
    rw [Value.restoredEntries?, ih hrest]
    rfl

/-- **A table that was restored** gives the settings that it gave before, if no date-time is taken
for it. -/
theorem exists_restored_given_iff (hdistinct : KeysDistinct entries)
    (hfirst : ∀ e ∈ entries.head?, e.1 ≠ Toml.privateKey)
    {settings : Option (TextMap String)} :
    (∃ v, RestoresTo (.table entries) v ∧ Given (some v) settings)
      ↔ Given (some (.table entries)) settings := by
  constructor
  · rintro ⟨v, hv, hgiven⟩
    cases hgiven with
    | table settings_of =>
      rcases hv.of_table with ⟨d, hd⟩ | ⟨restored, heq, hentries⟩
      · cases hd
      · cases heq
        exact .table (settings_of.of_rel (fun _ _ h => h.eq_string)
          (TextMap.rel_lookup_of_forall₂ hentries))
  · intro hgiven
    cases hgiven with
    | table settings_of =>
      refine ⟨.table entries, ?_, .table settings_of⟩
      rw [RestoresTo, restored?_table hfirst,
        restoredEntries?_of_strings fun _ he => settings_of.string hdistinct he, Option.map_some]

end Settings

end SessionPlan
