/-
Queries, field by field.

A field with an equals sign makes an entry, unless its value is empty; a field without one is a
fault. Reading a query is therefore told in one sentence: the first fault decides, and without a
fault the entries are put into a map one after the other. Everything about repeated keys, empty
values and the order of fields follows from that sentence and the laws of maps.
-/
import SessionPlan.Dsn
import SessionPlan.Proofs.Outcome
import SessionPlan.Proofs.TextMap

set_option autoImplicit false

namespace SessionPlan

namespace TextMap

theorem insertAll_append {α : Type} (m : TextMap α) (l l' : List (String × α)) :
    m.insertAll (l ++ l') = (m.insertAll l).insertAll l' := List.foldl_append

end TextMap

namespace Dsn

/-! ## One field -/

/-- The decoded key of a field, which is what stands before its first equals sign. -/
def fieldKey? (field : List Char) : Option String :=
  (Text.cutAtFirst '=' field).map fun parts => String.ofList (Text.Percent.decodeForm parts.1)

/-- The entry that a field makes: none for want of an equals sign or of a value. -/
def fieldPair? (field : List Char) : Option (String × String) :=
  (Text.cutAtFirst '=' field).bind fun parts =>
    if Text.Percent.decodeForm parts.2 = [] then none
    else some (String.ofList (Text.Percent.decodeForm parts.1),
      String.ofList (Text.Percent.decodeForm parts.2))

/-- A field has a key exactly when it has an equals sign. -/
theorem fieldKey?_eq_none_iff {field : List Char} : fieldKey? field = none ↔ '=' ∉ field := by
  rw [fieldKey?, Option.map_eq_none_iff, Text.cutAtFirst_eq_none_iff]

/-- The key of the entry is the key of the field. -/
theorem fieldKey?_of_fieldPair? {field : List Char} {entry : String × String}
    (h : fieldPair? field = some entry) : fieldKey? field = some entry.1 := by
  obtain ⟨parts, hparts, h⟩ := Option.bind_eq_some_iff.mp h
  split at h
  · cases h
  · cases h
    rw [fieldKey?, hparts, Option.map_some]

/-- A field with a key has an equals sign. -/
theorem eq_mem_of_fieldKey? {field : List Char} {key : String} (h : fieldKey? field = some key) :
    '=' ∈ field := by
  refine Classical.not_not.mp fun hn => ?_
  rw [fieldKey?_eq_none_iff.mpr hn] at h
  cases h

/-- No entry has an empty value. -/
theorem value_ne_empty_of_fieldPair? {field : List Char} {entry : String × String}
    (h : fieldPair? field = some entry) : entry.2 ≠ "" := by
  obtain ⟨parts, -, h⟩ := Option.bind_eq_some_iff.mp h
  split at h
  · cases h
  next hvalue =>
    cases h
    exact fun hempty => hvalue (String.ofList_eq_empty_iff.mp hempty)

/-- **Reading a field** puts its entry in; without an equals sign it is a fault. -/
theorem readField_eq (query : TextMap String) (field : List Char) :
    readField query field
      = if '=' ∈ field then .ok (query.insertAll (fieldPair? field).toList)
        else .error (.invalidQuery (String.ofList field)) := by
  rw [readField, fieldPair?]
  cases h : Text.cutAtFirst '=' field with
  | none => rw [if_neg (Text.cutAtFirst_eq_none_iff.mp h)]
  | some parts =>
    have hmem : '=' ∈ field := by
      rw [(Text.cutAtFirst_eq_some_iff.mp h).1]
      exact List.mem_append_right _ List.mem_cons_self
    rw [if_pos hmem, Option.bind_some]
    by_cases hvalue : Text.Percent.decodeForm parts.2 = []
    · simp only [if_pos hvalue]
      rfl
    · simp only [if_neg hvalue]
      rfl

/-! ## All fields -/

/-- **Reading fields.** The first field without an equals sign decides; if all have one, their
entries are put in in order. -/
theorem foldlM_readField (query : TextMap String) (fields : List (List Char)) :
    fields.foldlM readField query
      = match fields.find? fun field => '=' ∉ field with
        | some field => .error (.invalidQuery (String.ofList field))
        | none => .ok (query.insertAll (fields.filterMap fieldPair?)) := by
  -- the map is general: each field is read into the map of those before it
  induction fields generalizing query with
  | nil => rfl
  | cons field fields ih =>
    rw [List.foldlM_cons, readField_eq]
    by_cases hmem : '=' ∈ field
    · rw [if_pos hmem, ok_bind, ih, List.find?_cons_of_neg (by simpa using hmem)]
      cases fields.find? fun field => '=' ∉ field with
      | some bad => rfl
      | none =>
        have hentries : (field :: fields).filterMap fieldPair?
            = (fieldPair? field).toList ++ fields.filterMap fieldPair? := by
          cases hentry : fieldPair? field with
          | none => rw [List.filterMap_cons_none hentry]; rfl
          | some entry => rw [List.filterMap_cons_some hentry]; rfl
        rw [hentries, TextMap.insertAll_append]
    · rw [if_neg hmem, error_bind, List.find?_cons_of_pos (by simpa using hmem)]

/-- Fields that all have an equals sign are read without a fault. -/
theorem foldlM_readField_of_forall_mem {fields : List (List Char)}
    (h : ∀ field ∈ fields, '=' ∈ field) (query : TextMap String) :
    fields.foldlM readField query = .ok (query.insertAll (fields.filterMap fieldPair?)) := by
  have hnone : (fields.find? fun field => '=' ∉ field) = none :=
    List.find?_eq_none.mpr fun field hfield => by simpa using h field hfield
  rw [foldlM_readField, hnone]

/-- Fields that are put together make a text that is split into them again. One field has to hold
something: the empty text is split into one empty field. -/
theorem splitOn_intercalate_fields {fields : List (List Char)}
    (hsplit : ∀ field ∈ fields, '&' ∉ field) {field : List Char} (hmem : field ∈ fields)
    (hne : field ≠ []) :
    ['&'].intercalate fields ≠ [] ∧ (['&'].intercalate fields).splitOn '&' = fields := by
  have hfields : (['&'].intercalate fields).splitOn '&' = fields :=
    List.splitOn_intercalate '&' hsplit (List.ne_nil_of_mem hmem)
  refine ⟨?_, hfields⟩
  intro hnil
  rw [hnil, List.splitOn_nil] at hfields
  rw [← hfields] at hmem
  exact hne (List.mem_singleton.mp hmem)

/-- A query that was put together from fields is read field by field. -/
theorem readQuery_intercalate {fields : List (List Char)} (hsplit : ∀ field ∈ fields, '&' ∉ field)
    {field : List Char} (hmem : field ∈ fields) (hne : field ≠ []) :
    readQuery (['&'].intercalate fields) = fields.foldlM readField .empty := by
  obtain ⟨htext, hfields⟩ := splitOn_intercalate_fields hsplit hmem hne
  rw [readQuery, if_neg htext, hfields]

/-- The only fault of a query is a field without an equals sign. -/
theorem error_of_readQuery {query : List Char} {e : ParameterError}
    (h : readQuery query = .error e) : ∃ field, e = .invalidQuery field := by
  rw [readQuery] at h
  split at h
  · cases h
  · rw [foldlM_readField] at h
    split at h
    next field _ => cases h; exact ⟨String.ofList field, rfl⟩
    next => cases h

/-- **No empty values.** Whatever a query says, no value of it is empty. -/
theorem value_ne_empty_of_readQuery {query : List Char} {m : TextMap String}
    (h : readQuery query = .ok m) {entry : String × String} (hentry : entry ∈ m.entries) :
    entry.2 ≠ "" := by
  rw [readQuery] at h
  split at h
  · cases h
    cases hentry
  · rw [foldlM_readField] at h
    split at h
    next => cases h
    next =>
      cases h
      -- the entry is looked up, so it is one of those that the fields made
      have hmem := TextMap.mem_of_get?_ofList (TextMap.get?_eq_some_iff.mpr hentry)
      obtain ⟨field, -, hfield⟩ := List.mem_filterMap.mp hmem
      exact value_ne_empty_of_fieldPair? hfield

/-- **Order of fields.** Two fields that stand next to each other and have different keys may change
places. -/
theorem foldlM_readField_swap {f g : List Char} {j k : String} (hf : fieldKey? f = some j)
    (hg : fieldKey? g = some k) (hne : j ≠ k) (before after : List (List Char))
    (query : TextMap String) :
    (before ++ f :: g :: after).foldlM readField query
      = (before ++ g :: f :: after).foldlM readField query := by
  rw [List.foldlM_append, List.foldlM_append]
  -- from here on both orders go on from the same map
  refine bind_congr fun m => ?_
  have hswap : (m.insertAll (fieldPair? f).toList).insertAll (fieldPair? g).toList
      = (m.insertAll (fieldPair? g).toList).insertAll (fieldPair? f).toList := by
    cases hfe : fieldPair? f with
    | none => rfl
    | some ef =>
      cases hge : fieldPair? g with
      | none => rfl
      | some eg =>
        have hj : j = ef.1 := Option.some.inj (hf.symm.trans (fieldKey?_of_fieldPair? hfe))
        have hk : k = eg.1 := Option.some.inj (hg.symm.trans (fieldKey?_of_fieldPair? hge))
        exact TextMap.insert_comm m (hj ▸ hk ▸ hne) ef.2 eg.2
  simp only [List.foldlM_cons, readField_eq, if_pos (eq_mem_of_fieldKey? hf),
    if_pos (eq_mem_of_fieldKey? hg), ok_bind, hswap]

/-- The same for the text of a query. -/
theorem readQuery_swap {f g : List Char} {j k : String} (hf : fieldKey? f = some j)
    (hg : fieldKey? g = some k) (hne : j ≠ k) {before after : List (List Char)}
    (hsplit : ∀ field ∈ before ++ f :: g :: after, '&' ∉ field) :
    readQuery (['&'].intercalate (before ++ f :: g :: after))
      = readQuery (['&'].intercalate (before ++ g :: f :: after)) := by
  have hperm : (before ++ f :: g :: after).Perm (before ++ g :: f :: after) :=
    (List.Perm.swap g f after).append_left before
  have hfield : f ≠ [] := by
    rintro rfl
    cases hf
  have hmem : f ∈ before ++ f :: g :: after := List.mem_append_right _ List.mem_cons_self
  rw [readQuery_intercalate hsplit hmem hfield,
    readQuery_intercalate (fun field h => hsplit field (hperm.mem_iff.mpr h))
      (hperm.mem_iff.mp hmem) hfield]
  exact foldlM_readField_swap hf hg hne before after .empty

/-! ## Faults -/

theorem error_of_decodePart {part : List Char} {e : ParameterError}
    (h : decodePart part = .error e) : ∃ reason, e = .invalidDsn reason := by
  rw [decodePart] at h
  split at h
  next => cases h
  next =>
    split at h
    next => cases h
    next => cases h; exact ⟨_, rfl⟩

/-- **The faults of a connection string**: its scheme, a part, or a field of its query. -/
theorem error_of_parse {text : String} {e : ParameterError} (h : parse text = .error e) :
    (∃ scheme, e = .invalidScheme scheme) ∨ (∃ reason, e = .invalidDsn reason)
      ∨ ∃ field, e = .invalidQuery field := by
  rw [parse] at h
  split at h
  next =>
    cases h
    exact Or.inr (Or.inl ⟨_, rfl⟩)
  next =>
    split at h
    next =>
      -- the query is read first, and the parts then in order
      rw [Parts.decode] at h
      rcases bind_eq_error_iff.mp h with h | ⟨query, -, h⟩
      · exact Or.inr (Or.inr (error_of_readQuery h))
      right; left
      rcases bind_eq_error_iff.mp h with h | ⟨user, -, h⟩
      · exact error_of_decodePart h
      rcases bind_eq_error_iff.mp h with h | ⟨password, -, h⟩
      · exact error_of_decodePart h
      rcases bind_eq_error_iff.mp h with h | ⟨database, -, h⟩
      · exact error_of_decodePart h
      · cases h
    next =>
      cases h
      exact Or.inl ⟨_, rfl⟩

end Dsn

end SessionPlan
