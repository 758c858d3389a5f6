/-
Passwords inside a connection string.

A connection string may hold a password in its user information, and in every field of its query
whose key is `password`. Either place can be filled with another password while all that stands
around it is kept. What is read is then the same beside the password: one in a field is never a
fault, since a field decodes to some text whatever it holds, while one in the user information may
be a fault of its own.
-/
import SessionPlan.Proofs.LayoutChange

set_option autoImplicit false

namespace SessionPlan

/-! ## The value of one key -/

namespace TextMap

variable {α : Type}

/-- Two maps agree beside the value of one key, which both hold or both lack. -/
structure SameBeside (key : String) (m m' : TextMap α) : Prop where
  others : ∀ k, k ≠ key → m.get? k = m'.get? k
  present : (m.get? key).isSome = (m'.get? key).isSome

theorem get?_ofList_append_cons (before after : List (String × α)) (entry : String × α)
    (k : String) :
    (ofList (before ++ entry :: after)).get? k
      = (after.reverse.lookup k).or
          (if k = entry.1 then some entry.2 else (ofList before).get? k) := by
  unfold ofList
  rw [insertAll_append, insertAll_cons, get?_insertAll, get?_insert]

/-- Of a list of entries one has another value. -/
theorem sameBeside_ofList (key : String) (value value' : α) (before after : List (String × α)) :
    SameBeside key (ofList (before ++ (key, value) :: after))
      (ofList (before ++ (key, value') :: after)) := by
  refine ⟨?_, ?_⟩
  · intro k hk
    rw [get?_ofList_append_cons, get?_ofList_append_cons]
    simp only [if_neg hk]
  · rw [get?_ofList_append_cons, get?_ofList_append_cons]
    simp only [if_true, Option.isSome_or, Option.isSome_some, Bool.or_true]

end TextMap

namespace Dsn

/-! ## Places -/

/-- A password as it stands in user information. It may hold colons and at signs. -/
structure RawPassword where
  written : List Char
  free : ∀ c ∈ ['/', '?', '#'], c ∉ written

/-- User information with another password. -/
def UserInfo.withPassword (info : UserInfo) (password : RawPassword) : UserInfo where
  user := info.user
  password := some password.written
  user_free := info.user_free
  password_free := password.free

/-- The key of the fields that hold a password. -/
def QueryPiece.passwordKey : QueryPiece := ⟨"password".toList, by simp⟩

/-- A field with a password, which is not empty, makes an entry. -/
theorem QueryPiece.fieldPair?_password {value : QueryPiece} (h : value.text ≠ []) :
    fieldPair? (field passwordKey value).written = some ("password", String.ofList value.text) := by
  rw [fieldPair?_field (by decide) h]
  rfl

namespace Layout

/-- A layout with another password in its user information. -/
def withPassword (layout : Layout) (password : RawPassword) : Layout :=
  { layout with
    authority := layout.authority.map fun authority =>
      { authority with userInfo := authority.userInfo.map (·.withPassword password) }
    path_start := by
      rw [Option.isSome_map]
      exact layout.path_start }

/-- A layout whose query is made of the given fields. -/
def withFields (layout : Layout) (fields : List QueryPiece) : Layout :=
  { layout with
    query := some (['&'].intercalate (fields.map (·.written)))
    query_free := not_mem_intercalate (by decide) fun f hf => by
      obtain ⟨piece, -, rfl⟩ := List.mem_map.mp hf
      exact piece.free '#' (by decide) }

/-- The connection string of a layout under any scheme. -/
def textUnder (scheme : List Char) (layout : Layout) : String :=
  String.ofList (scheme ++ ':' :: layout.written)

variable {layout : Layout} {scheme : List Char}

theorem textUnder_ne_empty : layout.textUnder scheme ≠ "" := by
  intro h
  have hlist : scheme ++ ':' :: layout.written = [] := String.ofList_eq_empty_iff.mp h
  simp at hlist

theorem parse_textUnder (h : ':' ∉ scheme) :
    parse (layout.textUnder scheme)
      = if String.ofList scheme = dsnScheme then layout.parts.decode
        else .error (.invalidScheme (String.ofList scheme)) := by
  rw [textUnder, parse_eq_of_scheme h, cut_written]

theorem parts_withPassword (h : layout.userInfo?.isSome = true) (password : RawPassword) :
    (layout.withPassword password).parts = { layout.parts with password := password.written } := by
  obtain ⟨authority, path, query, fragment, _, _, _⟩ := layout
  obtain ⟨info, hinfo⟩ := Option.isSome_iff_exists.mp h
  obtain ⟨authority, rfl, hauthority⟩ := Option.bind_eq_some_iff.mp hinfo
  obtain ⟨userInfo, hostList, _⟩ := authority
  obtain rfl : userInfo = some info := hauthority
  rfl

theorem user_withPassword (h : layout.userInfo?.isSome = true) (password : RawPassword) :
    (layout.withPassword password).user = layout.user :=
  congrArg Parts.user (parts_withPassword h password)

theorem password_withPassword (h : layout.userInfo?.isSome = true) (password : RawPassword) :
    (layout.withPassword password).password = password.written :=
  congrArg Parts.password (parts_withPassword h password)

theorem fields_withFields {fields : List QueryPiece} {field : QueryPiece} (hmem : field ∈ fields)
    (hne : field.written ≠ []) : (layout.withFields fields).fields = fields.map (·.written) := by
  apply fields_of_intercalate rfl
  · intro f hf
    obtain ⟨piece, -, rfl⟩ := List.mem_map.mp hf
    exact piece.free '&' (by decide)
  · exact List.mem_map_of_mem hmem
  · exact hne

end Layout

/-! ## What is read -/

/-- Two connection strings agree beside the passwords that they hold. -/
structure SameBesidePassword (dsn dsn' : Dsn) : Prop where
  user : dsn.user = dsn'.user
  hostList : dsn.hostList = dsn'.hostList
  database : dsn.database = dsn'.database
  query : dsn.query.SameBeside "password" dsn'.query

/-- Two connection strings have passwords in the same places. -/
structure SamePasswordPlaces (dsn dsn' : Dsn) : Prop where
  userInfo : dsn.password.isSome = dsn'.password.isSome
  query : (dsn.query.get? "password").isSome = (dsn'.query.get? "password").isSome

/-- A field with a password is no fault, and its entry stands in its place. -/
theorem readQuery_withFields_password (layout : Layout) (before after : List QueryPiece)
    {value : QueryPiece} (h : value.text ≠ []) :
    readQuery ((layout.withFields (before ++ .field .passwordKey value :: after)).query.getD [])
      = match ((before ++ after).map (·.written)).find? fun field => '=' ∉ field with
        | some field => .error (.invalidQuery (String.ofList field))
        | none => .ok (TextMap.ofList ((before.map (·.written)).filterMap fieldPair?
            ++ ("password", String.ofList value.text)
              :: (after.map (·.written)).filterMap fieldPair?)) := by
  have hentry := QueryPiece.fieldPair?_password h
  have hmem : '=' ∈ (QueryPiece.field .passwordKey value).written :=
    eq_mem_of_fieldKey? (fieldKey?_of_fieldPair? hentry)
  have hfields : (layout.withFields (before ++ .field .passwordKey value :: after)).fields
      = before.map (·.written) ++ (QueryPiece.field .passwordKey value).written
        :: after.map (·.written) := by
    rw [Layout.fields_withFields (List.mem_append_right _ List.mem_cons_self)
      (List.ne_nil_of_mem hmem), List.map_append, List.map_cons]
  have hfaults : ((layout.withFields (before ++ .field .passwordKey value :: after)).fields.find?
        fun field => '=' ∉ field)
      = ((before ++ after).map (·.written)).find? fun field => '=' ∉ field := by
    rw [hfields, List.find?_append, List.find?_cons_of_neg (by simpa using hmem),
      ← List.find?_append, ← List.map_append]
  have hread := (layout.withFields (before ++ .field .passwordKey value :: after)).readQuery_eq
  rw [hfaults, hfields, List.filterMap_append, List.filterMap_cons_some hentry] at hread
  exact hread

/-- **Another password in a field** is never a fault, and it changes nothing but the password. -/
theorem alike_readQuery_withFields (layout : Layout) (before after : List QueryPiece)
    {value value' : QueryPiece} (h : value.text ≠ []) (h' : value'.text ≠ []) :
    Alike (TextMap.SameBeside "password")
      (readQuery ((layout.withFields (before ++ .field .passwordKey value :: after)).query.getD []))
      (readQuery
        ((layout.withFields (before ++ .field .passwordKey value' :: after)).query.getD [])) := by
  rw [readQuery_withFields_password layout before after h,
    readQuery_withFields_password layout before after h']
  cases ((before ++ after).map (·.written)).find? fun field => '=' ∉ field with
  | some field => exact .fault _
  | none => exact .value (TextMap.sameBeside_ofList _ _ _ _ _)

/-- The same for the whole connection string. -/
theorem alike_parse_withFields {scheme : List Char} (hscheme : ':' ∉ scheme) (layout : Layout)
    (before after : List QueryPiece) {value value' : QueryPiece} (h : value.text ≠ [])
    (h' : value'.text ≠ []) :
    Alike (fun dsn dsn' => SameBesidePassword dsn dsn' ∧ SamePasswordPlaces dsn dsn')
      (parse ((layout.withFields (before ++ .field .passwordKey value :: after)).textUnder scheme))
      (parse
        ((layout.withFields (before ++ .field .passwordKey value' :: after)).textUnder scheme)) := by
  rw [Layout.parse_textUnder hscheme, Layout.parse_textUnder hscheme]
  by_cases heq : String.ofList scheme = dsnScheme
  · rw [if_pos heq, if_pos heq]
    unfold Parts.decode
    apply (alike_readQuery_withFields layout before after h h').bind
    intro query query' hquery
    -- the other pieces are the same
    refine Alike.bind_left _ fun user => Alike.bind_left _ fun password =>
      Alike.bind_left _ fun database => ?_
    exact .value ⟨⟨rfl, rfl, rfl, hquery⟩, ⟨rfl, hquery.present⟩⟩
  · rw [if_neg heq, if_neg heq]
    exact .fault _

/-- **Another password in the user information** changes nothing else, if both can be decoded. -/
theorem alike_decode_of_password {parts : Parts} {password password' : List Char}
    {value value' : Option String} (h : decodePart password = .ok value)
    (h' : decodePart password' = .ok value') :
    Alike (fun dsn dsn' => SameBesidePassword dsn dsn' ∧ dsn.password = value ∧
        dsn'.password = value' ∧ dsn.query = dsn'.query)
      ({ parts with password }.decode) ({ parts with password := password' }.decode) := by
  unfold Parts.decode
  refine Alike.bind_left _ fun query => Alike.bind_left _ fun user => ?_
  rw [h, h', ok_bind, ok_bind]
  refine Alike.bind_left _ fun database => ?_
  exact .value ⟨⟨rfl, rfl, rfl, fun _ _ => rfl, rfl⟩, rfl, rfl, rfl⟩

/-- What is decoded of a password that is not empty is a password. -/
theorem isSome_of_decodePart {part : List Char} {value : Option String}
    (h : decodePart part = .ok value) (hne : part ≠ []) : value.isSome = true := by
  cases decodePart_eq_ok_iff.mp h with
  | absent => exact absurd rfl hne
  | present _ _ => rfl

theorem decodePart_of_decode {layout : Layout} {password : RawPassword} {dsn : Dsn}
    (hplace : layout.userInfo?.isSome = true)
    (h : (layout.withPassword password).parts.decode = .ok dsn) :
    decodePart password.written = .ok dsn.password := by
  rw [← Layout.password_withPassword hplace password]
  exact decodePart_eq_ok_iff.mpr (Layout.decode_parts_eq_ok_iff.mp h).password

/-- The same for the whole connection string: two that can be read agree beside the password. -/
theorem same_of_parse_withPassword {scheme : List Char} (hscheme : ':' ∉ scheme) {layout : Layout}
    (hplace : layout.userInfo?.isSome = true) {password password' : RawPassword}
    (hne : password.written ≠ []) (hne' : password'.written ≠ []) {dsn dsn' : Dsn}
    (h : parse ((layout.withPassword password).textUnder scheme) = .ok dsn)
    (h' : parse ((layout.withPassword password').textUnder scheme) = .ok dsn') :
    SameBesidePassword dsn dsn' ∧ SamePasswordPlaces dsn dsn' := by
  rw [Layout.parse_textUnder hscheme] at h h'
  by_cases heq : String.ofList scheme = dsnScheme
  · rw [if_pos heq] at h h'
    have hpassword := decodePart_of_decode hplace h
    have hpassword' := decodePart_of_decode hplace h'
    rw [Layout.parts_withPassword hplace] at h h'
    obtain ⟨hsame, -, -, hquery⟩ := (alike_decode_of_password hpassword hpassword').related h h'
    refine ⟨hsame, ?_, ?_⟩
    · rw [isSome_of_decodePart hpassword hne, isSome_of_decodePart hpassword' hne']
    · rw [hquery]
  · rw [if_neg heq] at h
    cases h

end Dsn

end SessionPlan
