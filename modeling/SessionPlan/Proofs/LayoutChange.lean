/-
Changes to a layout, and what they change in what is read.

A field that is put in front of a query is read before all others, so its entry counts where no
other field has its key. A field that is put in anywhere counts where no field behind it has its
key. A host list that is put into an authority is read as it is. Each change leaves everything else
alone, and a string with a fault keeps its fault.
-/
import SessionPlan.Proofs.DsnGrammar

set_option autoImplicit false

namespace SessionPlan

/-- A piece between two separators is free of them, and holds nothing that the text does not. -/
theorem Text.mem_of_mem_splitOn {sep c : Char} {s piece : List Char}
    (hpiece : piece ∈ s.splitOn sep) (hc : c ∈ piece) : c ≠ sep ∧ c ∈ s := by
  induction s generalizing piece with
  | nil =>
    rw [List.splitOn_nil, List.mem_singleton] at hpiece
    subst hpiece
    cases hc
  | cons d s ih =>
    rw [List.splitOn_cons_eq_if_modifyHead] at hpiece
    split at hpiece
    next hd =>
      rcases List.mem_cons.mp hpiece with rfl | hpiece
      · cases hc
      · obtain ⟨hne, hmem⟩ := ih hpiece hc
        exact ⟨hne, List.mem_cons_of_mem d hmem⟩
    next hd =>
      -- the first character belongs to the first piece
      obtain ⟨first, rest, hsplit⟩ := List.exists_cons_of_ne_nil (List.splitOn_ne_nil sep s)
      rw [hsplit, List.modifyHead_cons] at hpiece
      rw [hsplit] at ih
      rcases List.mem_cons.mp hpiece with rfl | hpiece
      · rcases List.mem_cons.mp hc with rfl | hc
        · exact ⟨by simpa using hd, List.mem_cons_self⟩
        · obtain ⟨hne, hmem⟩ := ih List.mem_cons_self hc
          exact ⟨hne, List.mem_cons_of_mem d hmem⟩
      · obtain ⟨hne, hmem⟩ := ih (List.mem_cons_of_mem first hpiece) hc
        exact ⟨hne, List.mem_cons_of_mem d hmem⟩

namespace Dsn

/-! ## Pieces of a query -/

namespace QueryPiece

theorem not_mem_encodeForm {c : Char} (hc : c ∈ ['&', '#']) (s : List Char) :
    c ∉ Text.Percent.encodeForm s := by
  apply Text.Percent.not_mem_encodeForm
  simp only [List.mem_cons, List.not_mem_nil, or_false] at hc
  rcases hc with rfl | rfl
  · decide
  · decide

/-- The piece of a text. -/
def encode (s : List Char) : QueryPiece where
  written := Text.Percent.encodeForm s
  free := fun _ hc => not_mem_encodeForm hc s

theorem text_encode (s : List Char) : (encode s).text = s := Text.Percent.decodeForm_encodeForm s

/-- The key of the field that lists the hosts. -/
def hostKey : QueryPiece := ⟨"host".toList, by simp⟩

/-- The key of the field that holds the ports. -/
def portKey : QueryPiece := ⟨"port".toList, by simp⟩

/-- The entry of a field is its key and its value, both decoded. -/
theorem fieldPair?_field {key value : QueryPiece} (hkey : '=' ∉ key.written)
    (hvalue : value.text ≠ []) :
    fieldPair? (field key value).written
      = some (String.ofList key.text, String.ofList value.text) := by
  have hcut : Text.cutAtFirst '=' (field key value).written = some (key.written, value.written) :=
    Text.cutAtFirst_eq_some_iff.mpr ⟨rfl, hkey⟩
  rw [fieldPair?, hcut, Option.bind_some]
  exact if_neg hvalue

end QueryPiece

namespace Layout

variable {layout : Layout} {dsn : Dsn}

/-! ## What is read -/

theorem text_ne_empty (layout : Layout) : layout.text ≠ "" := by
  intro h
  have hlist : dsnScheme.toList ++ ':' :: layout.written = [] := String.ofList_eq_empty_iff.mp h
  simp at hlist

theorem denotes_of_parse (h : parse layout.text = .ok dsn) : layout.Denotes dsn := by
  rw [layout.parse_text] at h
  exact decode_parts_eq_ok_iff.mp h

/-- A key that no field has is not looked up. -/
theorem get?_query_of_parse {key : String} (h : parse layout.text = .ok dsn)
    (hkey : ∀ field ∈ layout.fields, fieldKey? field ≠ some key) : dsn.query.get? key = none := by
  rw [(denotes_of_parse h).query, Option.eq_none_iff_forall_ne_some]
  intro value hvalue
  obtain ⟨field, hfield, hentry⟩ := List.mem_filterMap.mp (TextMap.mem_of_get?_ofList hvalue)
  exact hkey field hfield (fieldKey?_of_fieldPair? hentry)

/-- **Another query.** Where two layouts differ in their queries only, so does what is read of them,
and a fault of the other pieces is a fault of both. -/
theorem parse_of_query {layout' : Layout} (change : TextMap String → TextMap String)
    (hparts : layout'.parts = { layout.parts with query := layout'.query.getD [] })
    (hquery : readQuery (layout'.query.getD [])
      = (readQuery (layout.query.getD [])).map change) :
    parse layout'.text = (parse layout.text).map fun dsn =>
      { dsn with query := change dsn.query } := by
  rw [parse_text, parse_text, hparts]
  unfold Parts.decode
  rw [map_of_bind, hquery, bind_of_map]
  -- the other pieces are the same, and their faults come after those of the query
  refine bind_congr fun query => ?_
  simp only [map_of_bind]
  rfl

/-- A query that was put together from fields has these fields. -/
theorem fields_of_intercalate {fields : List (List Char)}
    (hquery : layout.query = some (['&'].intercalate fields)) (hsplit : ∀ f ∈ fields, '&' ∉ f)
    {field : List Char} (hmem : field ∈ fields) (hne : field ≠ []) : layout.fields = fields := by
  obtain ⟨htext, hfields⟩ := splitOn_intercalate_fields hsplit hmem hne
  rw [Layout.fields, hquery, Option.getD_some, if_neg htext, hfields]

/-! ## One more field -/

theorem fields_addField {field : QueryPiece} (h : field.written ≠ []) :
    (layout.addField field).fields = field.written :: layout.fields := by
  have hamp : '&' ∉ field.written := field.free '&' (by decide)
  -- an empty query has no field, so no ampersand is put behind the new one
  by_cases hnil : layout.query.getD [] = []
  · have hquery : (layout.addField field).query.getD [] = field.written := by
      rw [addField, Option.getD_some, if_pos hnil]
    rw [fields, hquery, if_neg h, List.splitOn_eq_singleton hamp, fields, if_pos hnil]
  · have hquery : (layout.addField field).query.getD []
        = field.written ++ '&' :: layout.query.getD [] := by
      rw [addField, Option.getD_some, if_neg hnil]
    have hne : field.written ++ '&' :: layout.query.getD [] ≠ [] := by simp
    rw [fields, hquery, if_neg hne, List.splitOn_append_cons_self_of_not_mem hamp, fields,
      if_neg hnil]

/-- **The entry of a first field** counts where no other field has its key. -/
theorem readQuery_addField {field : QueryPiece} {entry : String × String}
    (h : fieldPair? field.written = some entry) :
    readQuery ((layout.addField field).query.getD [])
      = (readQuery (layout.query.getD [])).map
          (TextMap.empty.insert entry.1 entry.2).override := by
  have hmem : '=' ∈ field.written := eq_mem_of_fieldKey? (fieldKey?_of_fieldPair? h)
  have hne : field.written ≠ [] := List.ne_nil_of_mem hmem
  rw [readQuery_eq, readQuery_eq, fields_addField hne, List.find?_cons_of_neg (by simpa using hmem),
    List.filterMap_cons_some h, TextMap.ofList_cons]
  cases layout.fields.find? fun field => '=' ∉ field with
  | some bad => rfl
  | none => rfl

theorem parse_addField {field : QueryPiece} {entry : String × String}
    (h : fieldPair? field.written = some entry) :
    parse (layout.addField field).text = (parse layout.text).map fun dsn =>
      { dsn with query := (TextMap.empty.insert entry.1 entry.2).override dsn.query } :=
  parse_of_query _ rfl (readQuery_addField h)

/-! ## One more field, anywhere -/

/-- A field of a query may stand between two ampersands. -/
theorem field_free {field : List Char} (h : field ∈ layout.fields) :
    ∀ c ∈ ['&', '#'], c ∉ field := by
  intro c hc hmem
  rw [fields] at h
  split at h
  · cases h
  · obtain ⟨hne, hquery⟩ := Text.mem_of_mem_splitOn h hmem
    simp only [List.mem_cons, List.not_mem_nil, or_false] at hc
    rcases hc with rfl | rfl
    · exact hne rfl
    · exact layout.query_free hquery

/-- The fields of a layout with one more behind the first `n`. -/
def insertedFields (layout : Layout) (n : Nat) (field : QueryPiece) : List (List Char) :=
  layout.fields.take n ++ field.written :: layout.fields.drop n

theorem insertedFields_free (layout : Layout) (n : Nat) (field : QueryPiece) :
    ∀ f ∈ layout.insertedFields n field, ∀ c ∈ ['&', '#'], c ∉ f := by
  intro f hf
  rcases List.mem_append.mp hf with hf | hf
  · exact field_free (List.mem_of_mem_take hf)
  · rcases List.mem_cons.mp hf with rfl | hf
    · exact field.free
    · exact field_free (List.mem_of_mem_drop hf)

/-- A layout with one more field behind the first `n` of its query. -/
def insertField (layout : Layout) (n : Nat) (field : QueryPiece) : Layout :=
  { layout with
    query := some (['&'].intercalate (layout.insertedFields n field))
    query_free := not_mem_intercalate (by decide) fun f hf =>
      layout.insertedFields_free n field f hf '#' (by decide) }

theorem fields_insertField {field : QueryPiece} (h : field.written ≠ []) (n : Nat) :
    (layout.insertField n field).fields = layout.insertedFields n field := by
  have hmem : field.written ∈ layout.insertedFields n field :=
    List.mem_append_right _ List.mem_cons_self
  exact fields_of_intercalate rfl
    (fun f hf => layout.insertedFields_free n field f hf '&' (by decide)) hmem h

/-- **The entry of one more field** counts where no field behind it has its key. -/
theorem readQuery_insertField {field : QueryPiece} {entry : String × String} {n : Nat}
    (h : fieldPair? field.written = some entry)
    (hkey : ∀ f ∈ layout.fields.drop n, fieldKey? f ≠ some entry.1) :
    readQuery ((layout.insertField n field).query.getD [])
      = (readQuery (layout.query.getD [])).map fun query => query.insert entry.1 entry.2 := by
  have hmem : '=' ∈ field.written := eq_mem_of_fieldKey? (fieldKey?_of_fieldPair? h)
  have hfaults : ((layout.insertedFields n field).find? fun f => '=' ∉ f)
      = layout.fields.find? fun f => '=' ∉ f := by
    rw [insertedFields, List.find?_append, List.find?_cons_of_neg (by simpa using hmem),
      ← List.find?_append, List.take_append_drop]
  have hentries : TextMap.ofList ((layout.insertedFields n field).filterMap fieldPair?)
      = (TextMap.ofList (layout.fields.filterMap fieldPair?)).insert entry.1 entry.2 := by
    have hlater : ∀ e ∈ (layout.fields.drop n).filterMap fieldPair?, e.1 ≠ entry.1 := by
      intro e he heq
      obtain ⟨f, hf, hentry⟩ := List.mem_filterMap.mp he
      apply hkey f hf
      rw [fieldKey?_of_fieldPair? hentry, heq]
    have hfields : layout.fields.filterMap fieldPair?
        = (layout.fields.take n).filterMap fieldPair?
          ++ (layout.fields.drop n).filterMap fieldPair? := by
      rw [← List.filterMap_append, List.take_append_drop]
    rw [insertedFields, List.filterMap_append, List.filterMap_cons_some h, hfields]
    unfold TextMap.ofList
    rw [TextMap.insertAll_append, TextMap.insertAll_append, TextMap.insertAll_cons,
      TextMap.insertAll_insert _ _ hlater]
  rw [readQuery_eq, readQuery_eq, fields_insertField (List.ne_nil_of_mem hmem), hfaults, hentries]
  cases layout.fields.find? fun f => '=' ∉ f with
  | some bad => rfl
  | none => rfl

theorem parse_insertField {field : QueryPiece} {entry : String × String} {n : Nat}
    (h : fieldPair? field.written = some entry)
    (hkey : ∀ f ∈ layout.fields.drop n, fieldKey? f ≠ some entry.1) :
    parse (layout.insertField n field).text = (parse layout.text).map fun dsn =>
      { dsn with query := dsn.query.insert entry.1 entry.2 } :=
  parse_of_query (·.insert entry.1 entry.2) rfl (readQuery_insertField h hkey)

/-! ## Another host list -/

theorem parse_withHostList {hosts : List Char} (hauthority : layout.authority.isSome = true)
    (hne : hosts ≠ []) (free : ∀ c ∈ ['@', '/', '?', '#'], c ∉ hosts) :
    parse (layout.withHostList hosts free).text = (parse layout.text).map fun dsn =>
      { dsn with hostList := some (String.ofList hosts) } := by
  -- of the parts only the host list is another one, and it is never decoded
  have hparts : (layout.withHostList hosts free).parts
      = { layout.parts with hostList := hosts } := by
    obtain ⟨authority, path, query, fragment, _, _, _⟩ := layout
    obtain ⟨authority, rfl⟩ := Option.isSome_iff_exists.mp hauthority
    rfl
  rw [parse_text, parse_text, hparts]
  unfold Parts.decode
  simp only [map_of_bind, if_neg hne]
  rfl

end Layout

end Dsn

end SessionPlan
