/-
Server settings are accepted exactly from tables of strings.

From such a table nothing is lost and nothing is added. In any other table one entry is to blame:
of the entries that are no strings, the one whose key comes first in the order of bytes. So neither
the order of the document nor any other entry has a say in what is reported.
-/
import SessionPlan.Proofs.ByteOrder
import SessionPlan.Proofs.SettingsTable

set_option autoImplicit false

namespace SessionPlan

open Toml (Value)
open TextMap (KeysDistinct)

namespace Settings

variable {entries entries' : List (String × Value)} {settings : TextMap String}

/-! ## Tables of strings -/

/-- The settings of a table are its entries, all of which are strings. -/
theorem of_iff_mem (hdistinct : KeysDistinct entries) :
    Of entries settings ↔ (∀ e ∈ entries, ∃ text, e.2 = .string text) ∧
      ∀ key text, settings.get? key = some text ↔ (key, .string text) ∈ entries := by
  constructor
  · intro hof
    refine ⟨fun e he => hof.string hdistinct he, ?_⟩
    intro key text
    rw [← TextMap.lookup_eq_some_iff_mem hdistinct, hof key, Option.map_eq_some_iff]
    constructor
    · exact fun h => ⟨text, h, rfl⟩
    · rintro ⟨text', h, heq⟩
      rw [h, Value.string.inj heq]
  · rintro ⟨hstrings, hmem⟩ key
    cases hlookup : entries.lookup key with
    | some value =>
      have he := (TextMap.lookup_eq_some_iff_mem hdistinct).mp hlookup
      obtain ⟨text, rfl⟩ : ∃ text, value = .string text := hstrings _ he
      rw [(hmem key text).mpr he, Option.map_some]
    | none =>
      cases hget : settings.get? key with
      | none => rfl
      | some text =>
        have he := (TextMap.lookup_eq_some_iff_mem hdistinct).mpr ((hmem key text).mp hget)
        rw [hlookup] at he
        cases he

/-- A table has settings when all of its entries are strings. -/
theorem exists_ofToml_table_iff (hdistinct : KeysDistinct entries) :
    (∃ settings, ofToml (.table entries) = .ok settings)
      ↔ ∀ e ∈ entries, ∃ text, e.2 = .string text := by
  constructor
  · rintro ⟨settings, hsettings⟩ e he
    exact ((ofToml_table_eq_ok_iff hdistinct).mp hsettings).string hdistinct he
  · intro hstrings
    have hkeys : ∀ entries', Value.table entries = .table entries' → KeysDistinct entries' :=
      fun entries' heq => Value.table.inj heq ▸ hdistinct
    cases hread : ofToml (.table entries) with
    | ok settings => exact ⟨settings, rfl⟩
    | error fault =>
      -- the entry to blame would be a string
      cases (ofToml_eq_error_iff hkeys).mp hread with
      | shape ne => exact absurd rfl (ne entries)
      | entry mem lacks _ =>
        obtain ⟨text, htext⟩ := hstrings _ mem
        exact absurd htext (lacks text)

/-! ## The entry to blame -/

/-- The entry to blame is the one that comes first in the order of bytes. -/
theorem fault_table_iff {fault : ParameterError} :
    Fault (.table entries) fault ↔ ∃ key value, (key, value) ∈ entries ∧
      (∀ text, value ≠ .string text) ∧
      (∀ e ∈ entries, (∀ text, e.2 ≠ .string text) → e.1 ≠ key →
        Text.Utf8.encode key.toList < Text.Utf8.encode e.1.toList) ∧
      fault = notString key value := by
  constructor
  · intro h
    cases h with
    | shape ne => exact absurd rfl (ne entries)
    | @entry _ key value mem lacks least =>
      refine ⟨key, value, mem, lacks, ?_, rfl⟩
      intro e he hlacks hne
      rw [Text.Utf8.encode_lt_encode_iff]
      by_contra hnot
      have hlt : e.1 < key := by
        by_contra hlt
        exact hne (eq_of_not_lt hlt hnot)
      obtain ⟨text, htext⟩ := least e he hlt
      exact hlacks text htext
  · rintro ⟨key, value, mem, lacks, hfirst, rfl⟩
    refine .entry mem lacks ?_
    intro e he hlt
    by_contra hlacks
    have hne : e.1 ≠ key := fun heq => String.lt_irrefl key (heq ▸ hlt)
    have hgt := hfirst e he (fun text htext => hlacks ⟨text, htext⟩) hne
    exact String.lt_asymm hlt (Text.Utf8.encode_lt_encode_iff.mp hgt)

/-- The order of the entries does not matter. -/
theorem ofToml_table_of_perm (hdistinct : KeysDistinct entries) (hperm : entries.Perm entries') :
    ofToml (.table entries') = ofToml (.table entries) := by
  have hsame : TextMap.ofList entries' = TextMap.ofList entries := by
    apply TextMap.ext_get?
    intro key
    rw [TextMap.get?_ofList_of_distinct (hdistinct.perm hperm),
      TextMap.get?_ofList_of_distinct hdistinct]
    exact TextMap.lookup_of_perm hperm hdistinct key
  rw [ofToml, ofToml, hsame]

theorem ofToml_of_no_table {value : Value} (h : ∀ entries, value ≠ .table entries) :
    ofToml value
      = .error (.invalidServerSettings ("expected a table, got " ++ value.typeName)) := by
  unfold ofToml
  split
  next entries => exact absurd rfl (h entries)
  next => rfl

/-- **Settings are tables of strings.** A table, whose keys are distinct, gives settings exactly if
every entry of it is a string, and then the settings are its entries. Otherwise the fault names a
key and a type: of the entries that are no strings, those of the one whose key comes first in the
order of bytes. The order of the entries makes no difference. A value that is no table is refused
with its type. -/
theorem settings_by_entries :
    (∀ entries : List (String × Value), KeysDistinct entries →
      ((∃ settings, ofToml (.table entries) = .ok settings) ↔
        ∀ e ∈ entries, ∃ text, e.2 = .string text) ∧
      (∀ settings, ofToml (.table entries) = .ok settings ↔
        (∀ e ∈ entries, ∃ text, e.2 = .string text) ∧
          ∀ key text, settings.get? key = some text ↔ (key, .string text) ∈ entries) ∧
      (∀ fault, ofToml (.table entries) = .error fault ↔
        ∃ key value, (key, value) ∈ entries ∧ (∀ text, value ≠ .string text) ∧
          (∀ e ∈ entries, (∀ text, e.2 ≠ .string text) → e.1 ≠ key →
            Text.Utf8.encode key.toList < Text.Utf8.encode e.1.toList) ∧
          fault = .invalidServerSettings ("value of " ++ Text.quoted key ++ " is a "
            ++ value.typeName ++ ", not a string")) ∧
      ∀ entries', entries.Perm entries' → ofToml (.table entries') = ofToml (.table entries)) ∧
    ∀ value : Value, (∀ entries, value ≠ .table entries) →
      ofToml value
        = .error (.invalidServerSettings ("expected a table, got " ++ value.typeName)) := by
  refine ⟨?_, fun _ h => ofToml_of_no_table h⟩
  intro entries hdistinct
  have hkeys : ∀ entries', Value.table entries = .table entries' → KeysDistinct entries' :=
    fun entries' heq => Value.table.inj heq ▸ hdistinct
  refine ⟨exists_ofToml_table_iff hdistinct, ?_, ?_, fun _ => ofToml_table_of_perm hdistinct⟩
  · exact fun settings => (ofToml_table_eq_ok_iff hdistinct).trans (of_iff_mem hdistinct)
  · exact fun fault => (ofToml_eq_error_iff hkeys).trans fault_table_iff

/-- A table with two entries that are no strings, in both orders, a table of strings, and a value of
another type that is no table. -/
theorem settings_by_entries_of_two_faults :
    let faulty : List (String × Value) :=
      [("é", .boolean true), ("name", .string "x"), ("z", .integer 3)]
    KeysDistinct faulty ∧ faulty.Perm faulty.reverse ∧
      (∀ entries, Value.boolean false ≠ .table entries) ∧
      ofToml (.table faulty)
        = .error (.invalidServerSettings "value of \"z\" is a integer, not a string") ∧
      ofToml (.table faulty.reverse)
        = .error (.invalidServerSettings "value of \"z\" is a integer, not a string") ∧
      ofToml (.boolean false)
        = .error (.invalidServerSettings "expected a table, got boolean") ∧
      ∃ settings, ofToml (.table [("name", .string "x")]) = .ok settings := by
  intro faulty
  have hdistinct : KeysDistinct faulty := by simp [faulty, KeysDistinct]
  have hperm : faulty.Perm faulty.reverse := (List.reverse_perm faulty).symm
  have hshape : ∀ entries, Value.boolean false ≠ .table entries := nofun
  obtain ⟨-, -, hfault, hsame⟩ := settings_by_entries.1 faulty hdistinct
  have hread : ofToml (.table faulty)
      = .error (.invalidServerSettings "value of \"z\" is a integer, not a string") := by
    refine (hfault _).mpr ⟨"z", .integer 3, by simp [faulty], nofun, ?_, by decide +kernel⟩
    simp only [faulty, List.forall_mem_cons, List.not_mem_nil, false_implies, implies_true, and_true]
    refine ⟨fun _ _ => by decide +kernel, ?_, fun _ h => absurd rfl h⟩
    exact fun h => absurd rfl (h "x")
  refine ⟨hdistinct, hperm, hshape, hread, (hsame _ hperm).trans hread, ?_, ?_⟩
  · exact (settings_by_entries.2 _ hshape).trans (by decide +kernel)
  · apply (settings_by_entries.1 [("name", .string "x")] (by simp [KeysDistinct])).1.mpr
    simp

end Settings

end SessionPlan
