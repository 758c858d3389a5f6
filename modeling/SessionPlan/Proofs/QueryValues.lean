/-
The values of a query, key by key.

A field gives a key a value: its first equals sign stands between the two, and both are decoded. An
empty value is none. One more field behind the others either gives a key its value, or leaves the
value of that key as it was; so the value of a key is that of the last field that gives it one, and
what the other fields say, and where they stand, does not matter to it. The same goes for the fault
of a query: it is the first field without a key, wherever the fields with keys stand.
-/
import SessionPlan.Proofs.PasswordPlaces
import Mathlib.Data.List.Induction

set_option autoImplicit false

namespace SessionPlan.Dsn

/-! ## One field -/

/-- A field gives a key a value, which is not empty. -/
inductive GivesValue : List Char → String → String → Prop
  | field {key value : List Char} (first : '=' ∉ key) (ne : Text.Percent.decodeForm value ≠ []) :
      GivesValue (key ++ '=' :: value) (String.ofList (Text.Percent.decodeForm key))
        (String.ofList (Text.Percent.decodeForm value))

theorem fieldPair?_eq_some_iff {field : List Char} {key value : String} :
    fieldPair? field = some (key, value) ↔ GivesValue field key value := by
  constructor
  · intro h
    obtain ⟨parts, hparts, hvalue⟩ := Option.bind_eq_some_iff.mp h
    obtain ⟨rfl, hfirst⟩ := Text.cutAtFirst_eq_some_iff.mp hparts
    by_cases hempty : Text.Percent.decodeForm parts.2 = []
    · rw [if_pos hempty] at hvalue
      cases hvalue
    · rw [if_neg hempty] at hvalue
      cases hvalue
      exact .field hfirst hempty
  · rintro ⟨hfirst, hne⟩
    rw [fieldPair?, Text.cutAtFirst_eq_some_iff.mpr ⟨rfl, hfirst⟩, Option.bind_some, if_neg hne]

/-- A field with another key gives this key no value. -/
theorem not_givesValue_of_fieldKey? {field : List Char} {key : String}
    (h : fieldKey? field ≠ some key) (value : String) : ¬ GivesValue field key value := by
  intro hgives
  exact h (fieldKey?_of_fieldPair? (fieldPair?_eq_some_iff.mpr hgives))

/-! ## All fields -/

/-- The values that fields give to their keys, one field after the other. -/
def valuesOf (fields : List (List Char)) : TextMap String :=
  TextMap.ofList (fields.filterMap fieldPair?)

/-- The last field that gives a key any value gives it this one. -/
def LastValue (fields : List (List Char)) (key value : String) : Prop :=
  ∃ before field after, fields = before ++ field :: after ∧ GivesValue field key value ∧
    ∀ f ∈ after, ∀ v, ¬ GivesValue f key v

section Fields

variable {fields : List (List Char)} {field : List Char} {key value : String}

theorem valuesOf_concat (fields : List (List Char)) (field : List Char) :
    valuesOf (fields ++ [field]) = (valuesOf fields).insertAll (fieldPair? field).toList := by
  have hlast : [field].filterMap fieldPair? = (fieldPair? field).toList := by
    cases h : fieldPair? field with
    | none => rw [List.filterMap_cons_none h]; rfl
    | some entry => rw [List.filterMap_cons_some h]; rfl
  rw [valuesOf, List.filterMap_append, hlast, TextMap.ofList, TextMap.insertAll_append]
  rfl

/-- **A field that gives a value** decides on its key, whatever the fields before it say. -/
theorem get?_valuesOf_concat (h : GivesValue field key value) :
    (valuesOf (fields ++ [field])).get? key = some value := by
  rw [valuesOf_concat, fieldPair?_eq_some_iff.mpr h]
  show ((valuesOf fields).insert key value).get? key = some value
  rw [TextMap.get?_insert, if_pos rfl]

/-- **A field that gives none** leaves the value of the key as it was. -/
theorem get?_valuesOf_concat_of_not (h : ∀ v, ¬ GivesValue field key v) :
    (valuesOf (fields ++ [field])).get? key = (valuesOf fields).get? key := by
  rw [valuesOf_concat]
  cases hpair : fieldPair? field with
  | none => rfl
  | some entry =>
    have hne : key ≠ entry.1 := by
      rintro rfl
      exact h entry.2 (fieldPair?_eq_some_iff.mp hpair)
    show ((valuesOf fields).insert entry.1 entry.2).get? key = (valuesOf fields).get? key
    rw [TextMap.get?_insert, if_neg hne]

theorem lastValue_concat :
    LastValue (fields ++ [field]) key value ↔
      GivesValue field key value ∨
        (∀ v, ¬ GivesValue field key v) ∧ LastValue fields key value := by
  constructor
  · rintro ⟨before, f, after, hfields, hgives, hafter⟩
    -- the field that decides is the new one, or the new one is among those behind it
    rcases List.eq_nil_or_concat after with rfl | ⟨rest, last, rfl⟩
    · obtain ⟨-, hlast⟩ := List.append_inj' hfields rfl
      obtain rfl : field = f := List.singleton_inj.mp hlast
      exact Or.inl hgives
    · rw [List.concat_eq_append, ← List.cons_append, ← List.append_assoc] at hfields
      obtain ⟨rfl, hlast⟩ := List.append_inj' hfields rfl
      obtain rfl : field = last := List.singleton_inj.mp hlast
      refine Or.inr ⟨hafter field (by simp), before, f, rest, rfl, hgives, ?_⟩
      intro g hg
      exact hafter g (by simp [hg])
  · rintro (hgives | ⟨hnone, before, f, after, rfl, hgives, hafter⟩)
    · exact ⟨fields, field, [], rfl, hgives, by simp⟩
    · refine ⟨before, f, after ++ [field], by simp, hgives, ?_⟩
      intro g hg
      rcases List.mem_append.mp hg with hg | hg
      · exact hafter g hg
      · rw [List.mem_singleton.mp hg]
        exact hnone

/-- **The last value counts.** -/
theorem get?_valuesOf_eq_some_iff :
    (valuesOf fields).get? key = some value ↔ LastValue fields key value := by
  -- the fields are taken in order, so the induction takes them from the end
  induction fields using List.reverseRecOn with
  | nil =>
    constructor
    · intro h
      cases h
    · rintro ⟨before, field, after, h, -⟩
      simp at h
  | append_singleton fields field ih =>
    rw [lastValue_concat, ← ih]
    by_cases hgives : ∃ v, GivesValue field key v
    · obtain ⟨v, hv⟩ := hgives
      have honly : ∀ w, GivesValue field key w ↔ v = w := by
        intro w
        rw [← fieldPair?_eq_some_iff, fieldPair?_eq_some_iff.mpr hv]
        simp
      rw [get?_valuesOf_concat hv, Option.some.injEq, honly]
      simp [honly]
    · rw [not_exists] at hgives
      rw [get?_valuesOf_concat_of_not hgives]
      simp [hgives]

theorem get?_valuesOf_eq_none_iff :
    (valuesOf fields).get? key = none ↔ ∀ field ∈ fields, ∀ v, ¬ GivesValue field key v := by
  induction fields using List.reverseRecOn with
  | nil => simp [valuesOf, TextMap.ofList, TextMap.insertAll]
  | append_singleton fields field ih =>
    simp only [List.mem_append, List.mem_singleton, or_imp, forall_and, forall_eq]
    by_cases hgives : ∃ v, GivesValue field key v
    · obtain ⟨v, hv⟩ := hgives
      rw [get?_valuesOf_concat hv]
      constructor
      · intro h
        cases h
      · rintro ⟨-, hnone⟩
        exact absurd hv (hnone v)
    · rw [not_exists] at hgives
      rw [get?_valuesOf_concat_of_not hgives, ih]
      exact ⟨fun h => ⟨h, hgives⟩, fun h => h.1⟩

/-- Only the fields of a key have a say in its value. -/
theorem get?_valuesOf_filter (fields : List (List Char)) (key : String) :
    (valuesOf (fields.filter fun f => fieldKey? f = some key)).get? key
      = (valuesOf fields).get? key := by
  induction fields using List.reverseRecOn with
  | nil => rfl
  | append_singleton fields field ih =>
    rw [List.filter_append]
    -- a field of the key stays, and a field of another key says nothing about this one
    by_cases hkey : fieldKey? field = some key
    · rw [List.filter_cons_of_pos (by simpa using hkey), List.filter_nil]
      by_cases hgives : ∃ v, GivesValue field key v
      · obtain ⟨v, hv⟩ := hgives
        rw [get?_valuesOf_concat hv, get?_valuesOf_concat hv]
      · rw [not_exists] at hgives
        rw [get?_valuesOf_concat_of_not hgives, get?_valuesOf_concat_of_not hgives, ih]
    · rw [List.filter_cons_of_neg (by simpa using hkey), List.filter_nil, List.append_nil, ih,
        get?_valuesOf_concat_of_not (not_givesValue_of_fieldKey? hkey)]

end Fields

/-! ## Fields in another order -/

/-- The same fields, those of one key in the same order. Fields without a key count as of one. -/
structure SameOrder (fields fields' : List (List Char)) : Prop where
  perm : fields.Perm fields'
  order : ∀ key, fields.filter (fun f => fieldKey? f = key)
    = fields'.filter fun f => fieldKey? f = key

section Order

variable {fields fields' : List (List Char)}

theorem SameOrder.valuesOf_eq (h : SameOrder fields fields') :
    valuesOf fields = valuesOf fields' := by
  apply TextMap.ext_get?
  intro key
  rw [← get?_valuesOf_filter, h.order, get?_valuesOf_filter]

/-- The first field without a key stays the first. -/
theorem SameOrder.find?_eq (h : SameOrder fields fields') :
    (fields.find? fun f => '=' ∉ f) = fields'.find? fun f => '=' ∉ f := by
  have hkeyless : ∀ f : List Char, decide ('=' ∉ f) = decide (fieldKey? f = none) := by
    intro f
    rw [decide_eq_decide, fieldKey?_eq_none_iff]
  simp only [hkeyless]
  rw [← List.head?_filter, h.order, List.head?_filter]

theorem SameOrder.foldlM_eq (h : SameOrder fields fields') :
    fields.foldlM readField .empty = fields'.foldlM readField .empty := by
  have hvalues := h.valuesOf_eq
  unfold valuesOf TextMap.ofList at hvalues
  rw [foldlM_readField, foldlM_readField, h.find?_eq, hvalues]

theorem SameOrder.readQuery_eq (h : SameOrder fields fields')
    (hsplit : ∀ field ∈ fields, '&' ∉ field) :
    readQuery (['&'].intercalate fields) = readQuery (['&'].intercalate fields') := by
  -- one empty field is written as no query is, so the fields are read as such only beside others
  by_cases hfield : ∃ field ∈ fields, field ≠ []
  · obtain ⟨field, hmem, hne⟩ := hfield
    rw [readQuery_intercalate hsplit hmem hne,
      readQuery_intercalate (fun f hf => hsplit f (h.perm.mem_iff.mpr hf))
        (h.perm.mem_iff.mp hmem) hne]
    exact h.foldlM_eq
  · -- fields that are all empty have no other order
    have hempty : fields = List.replicate fields.length [] := by
      apply List.eq_replicate_of_mem
      intro field hmem
      by_contra hne
      exact hfield ⟨field, hmem, hne⟩
    have hperm := h.perm
    rw [hempty] at hperm
    rw [hempty, List.perm_replicate.mp hperm.symm]

end Order

/-! ## Empty values -/

/-- A field with a key and an empty value says nothing. -/
theorem foldlM_readField_of_empty {field : List Char} (hkey : '=' ∈ field)
    (hnone : fieldPair? field = none) (before after : List (List Char)) :
    (before ++ field :: after).foldlM readField .empty
      = (before ++ after).foldlM readField .empty := by
  rw [foldlM_readField, foldlM_readField, List.find?_append, List.find?_append,
    List.find?_cons_of_neg (by simpa using hkey), List.filterMap_append, List.filterMap_append,
    List.filterMap_cons_none hnone]

theorem QueryPiece.fieldPair?_field_of_empty {key value : QueryPiece} (hkey : '=' ∉ key.written)
    (hvalue : value.text = []) : fieldPair? (field key value).written = none := by
  have hcut : Text.cutAtFirst '=' (field key value).written = some (key.written, value.written) :=
    Text.cutAtFirst_eq_some_iff.mpr ⟨rfl, hkey⟩
  rw [fieldPair?, hcut, Option.bind_some]
  exact if_pos hvalue

/-! ## Connection strings -/

namespace Layout

variable {layout : Layout} {fields fields' : List QueryPiece}

/-- Two queries that are read alike make connection strings that are read alike. -/
theorem parse_withFields_congr (layout : Layout)
    (h : readQuery (['&'].intercalate (fields.map (·.written)))
      = readQuery (['&'].intercalate (fields'.map (·.written)))) :
    parse (layout.withFields fields).text = parse (layout.withFields fields').text := by
  have hparts : ∀ fields : List QueryPiece, (layout.withFields fields).parts
      = { layout.parts with query := ['&'].intercalate (fields.map (·.written)) } := fun _ => rfl
  rw [parse_text, parse_text, hparts, hparts]
  unfold Parts.decode
  rw [h]

theorem parse_withFields_of_sameOrder (layout : Layout)
    (h : SameOrder (fields.map (·.written)) (fields'.map (·.written))) :
    parse (layout.withFields fields).text = parse (layout.withFields fields').text := by
  apply layout.parse_withFields_congr
  apply h.readQuery_eq
  intro field hfield
  obtain ⟨piece, -, rfl⟩ := List.mem_map.mp hfield
  exact piece.free '&' (by decide)

/-- A field with an empty value may be left out, if a field is left that is not empty. -/
theorem parse_withFields_of_empty (layout : Layout) {before after : List QueryPiece}
    {key value : QueryPiece} (hkey : '=' ∉ key.written) (hvalue : value.text = [])
    (hother : ∃ f ∈ before ++ after, f.written ≠ []) :
    parse (layout.withFields (before ++ QueryPiece.field key value :: after)).text
      = parse (layout.withFields (before ++ after)).text := by
  have hfree : ∀ fields : List QueryPiece, ∀ f ∈ fields.map (·.written), '&' ∉ f := by
    intro fields f hf
    obtain ⟨piece, -, rfl⟩ := List.mem_map.mp hf
    exact piece.free '&' (by decide)
  -- without another field the query that is left could be empty, which is read as having no fields
  obtain ⟨f, hmem, hne⟩ := hother
  have hmem' : f ∈ before ++ QueryPiece.field key value :: after := by
    rcases List.mem_append.mp hmem with hf | hf
    · exact List.mem_append_left _ hf
    · exact List.mem_append_right _ (List.mem_cons_of_mem _ hf)
  apply layout.parse_withFields_congr
  rw [readQuery_intercalate (hfree _) (List.mem_map_of_mem hmem') hne,
    readQuery_intercalate (hfree _) (List.mem_map_of_mem hmem) hne, List.map_append,
    List.map_append, List.map_cons]
  have hequal : '=' ∈ (QueryPiece.field key value).written :=
    List.mem_append_right _ List.mem_cons_self
  exact foldlM_readField_of_empty hequal (QueryPiece.fieldPair?_field_of_empty hkey hvalue) _ _

end Layout

/-- **The last value of a key counts.** A query with a field that has no equals sign is reported
with the first such field, whatever else is wrong with the string. A string that can be read has for
each key the value of the last field that gives it one, and no value where no field does. So fields
may change places as long as those of one key keep their order, and an empty value never takes the
place of another. -/
theorem query_by_last_value (layout : Layout) :
    (∀ before field after, layout.fields = before ++ field :: after → (∀ f ∈ before, '=' ∈ f) →
      '=' ∉ field → parse layout.text = .error (.invalidQuery (String.ofList field))) ∧
    (layout.Readable → ∃ dsn, parse layout.text = .ok dsn ∧ ∀ key,
      (∀ value, dsn.query.get? key = some value ↔ LastValue layout.fields key value) ∧
      (dsn.query.get? key = none ↔
        ∀ field ∈ layout.fields, ∀ value, ¬ GivesValue field key value)) ∧
    (∀ fields fields' : List QueryPiece,
      SameOrder (fields.map (·.written)) (fields'.map (·.written)) →
      parse (layout.withFields fields).text = parse (layout.withFields fields').text) ∧
    ∀ (before after : List QueryPiece) (key value : QueryPiece), '=' ∉ key.written →
      value.text = [] → (∃ f ∈ before ++ after, f.written ≠ []) →
      parse (layout.withFields (before ++ QueryPiece.field key value :: after)).text
        = parse (layout.withFields (before ++ after)).text := by
  refine ⟨?_, ?_, ?_, ?_⟩
  · intro before field after hfields hfirst hlacks
    exact parse_eq_error_iff.mpr (.field hfields hfirst hlacks)
  · intro hreadable
    obtain ⟨dsn, hdenotes⟩ := Layout.readable_iff_exists_denotes.mp hreadable
    have hquery : dsn.query = valuesOf layout.fields := hdenotes.query
    refine ⟨dsn, parse_eq_ok_iff.mpr ⟨layout, rfl, hdenotes⟩, fun key => ?_⟩
    rw [hquery]
    exact ⟨fun value => get?_valuesOf_eq_some_iff, get?_valuesOf_eq_none_iff⟩
  · intro fields fields' h
    exact layout.parse_withFields_of_sameOrder h
  · intro before after key value hkey hvalue hother
    exact layout.parse_withFields_of_empty hkey hvalue hother

/-- One key written in two ways, which keep their order, and another that goes in front of them. -/
theorem query_by_last_value_of_two_keys :
    let layout : Layout := ⟨none, [], none, none, by simp, by simp, by simp⟩
    let first : QueryPiece := ⟨"k=1".toList, by simp⟩
    let second : QueryPiece := ⟨"%6b=x=2".toList, by simp⟩
    let other : QueryPiece := ⟨"a=3".toList, by simp⟩
    (layout.withFields [first, second, other]).text = "edgedb:?k=1&%6b=x=2&a=3" ∧
      parse "edgedb:?a=3&k=1&%6b=x=2" = parse "edgedb:?k=1&%6b=x=2&a=3" ∧
      (parse "edgedb:?k=1&%6b=x=2&a=3").map (·.query.get? "k") = .ok (some "x=2") := by
  intro layout first second other
  have htext : (layout.withFields [first, second, other]).text = "edgedb:?k=1&%6b=x=2&a=3" := by
    decide +kernel
  have htext' : (layout.withFields [other, first, second]).text = "edgedb:?a=3&k=1&%6b=x=2" := by
    decide +kernel
  have horder : SameOrder ([other, first, second].map (·.written))
      ([first, second, other].map (·.written)) := by
    refine ⟨@List.perm_append_comm _ [_] [_, _], ?_⟩
    intro key
    have hother : fieldKey? other.written = some "a" := by rfl
    have hfirst : fieldKey? first.written = some "k" := by rfl
    have hsecond : fieldKey? second.written = some "k" := by rfl
    by_cases hkey : some "a" = key
    · subst hkey
      simp [hother, hfirst, hsecond]
    · -- the field that moved has another key, so it moved past none of this one
      have hskip : [other.written].filter (fun f => fieldKey? f = key) = [] := by
        simp [hother, hkey]
      change ([other.written] ++ [first.written, second.written]).filter _
        = ([first.written, second.written] ++ [other.written]).filter _
      rw [List.filter_append, List.filter_append, hskip, List.nil_append, List.append_nil]
  have hequal := (query_by_last_value layout).2.2.1 _ _ horder
  rw [htext, htext'] at hequal
  exact ⟨htext, hequal, by rfl⟩

end SessionPlan.Dsn
