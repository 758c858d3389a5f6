/-
Connection strings by their grammar: which strings are read, and what is wrong with the others.

Whether a string can be read is a question to the pieces of its layout: whether every field of the
query has an equals sign, and whether user, password and database are UTF-8 once decoded. The first
piece that answers no, in this order, is the fault that is reported. The scheme is looked at before
there is a layout at all.
-/
import SessionPlan.Proofs.Layout

set_option autoImplicit false

namespace SessionPlan.Dsn

/-! ## What a piece stands for -/

/-- A piece decodes to a text: the bytes of the text are those that the piece percent-encodes. -/
def DecodesTo (piece text : List Char) : Prop :=
  Text.Utf8.encode text = Text.Percent.decodeBytes (Text.Utf8.encode piece)

theorem decode?_eq_some_iff {piece text : List Char} :
    Text.Percent.decode? piece = some text ↔ DecodesTo piece text :=
  Text.Utf8.decode?_eq_some_iff

/-- The component that a piece makes: none if it is empty, and otherwise its decoded text. -/
inductive StandsFor : List Char → Option String → Prop
  | absent : StandsFor [] none
  | present {piece text : List Char} (ne : piece ≠ []) (decodes : DecodesTo piece text) :
      StandsFor piece (some (String.ofList text))

/-- The text of the fault of a piece. -/
def undecodable (piece : List Char) : ParameterError :=
  .invalidDsn (Text.quoted (String.ofList piece) ++ " is not valid UTF-8 once decoded")

theorem decodePart_eq_ok_iff {piece : List Char} {value : Option String} :
    decodePart piece = .ok value ↔ StandsFor piece value := by
  unfold decodePart
  by_cases hnil : piece = []
  · subst hnil
    rw [if_pos rfl]
    constructor
    · intro h
      cases h
      exact .absent
    · intro h
      cases h with
      | absent => rfl
      | present ne _ => exact absurd rfl ne
  · rw [if_neg hnil]
    constructor
    · intro h
      split at h
      next text htext =>
        cases h
        exact .present hnil (decode?_eq_some_iff.mp htext)
      next => cases h
    · intro h
      cases h with
      | absent => exact absurd rfl hnil
      | present _ decodes => rw [decode?_eq_some_iff.mpr decodes]

/-- A piece that decodes to some text stands for a component, and no other piece does. -/
theorem exists_standsFor_iff {piece : List Char} :
    (∃ value, StandsFor piece value) ↔ ∃ text, DecodesTo piece text := by
  constructor
  · rintro ⟨value, h⟩
    cases h with
    | absent => exact ⟨[], rfl⟩
    | @present _ text _ decodes => exact ⟨text, decodes⟩
  · rintro ⟨text, h⟩
    by_cases hnil : piece = []
    · rw [hnil]
      exact ⟨none, .absent⟩
    · exact ⟨_, .present hnil h⟩

theorem decodePart_eq_error_iff {piece : List Char} {e : ParameterError} :
    decodePart piece = .error e ↔ (¬ ∃ text, DecodesTo piece text) ∧ e = undecodable piece := by
  have hfault : ∀ e, decodePart piece = .error e → e = undecodable piece := by
    intro e h
    unfold decodePart at h
    split at h
    · cases h
    · split at h
      · cases h
      · cases h
        rfl
  rw [← exists_standsFor_iff]
  constructor
  · intro h
    refine ⟨?_, hfault e h⟩
    rintro ⟨value, hvalue⟩
    rw [decodePart_eq_ok_iff.mpr hvalue] at h
    cases h
  · rintro ⟨hnone, rfl⟩
    cases h : decodePart piece with
    | ok value => exact absurd ⟨value, decodePart_eq_ok_iff.mp h⟩ hnone
    | error e => rw [hfault e h]

/-! ## What a layout says -/

/-- A layout can be read: no field lacks an equals sign, and no piece lacks a text. -/
structure Layout.Readable (layout : Layout) : Prop where
  fields : ∀ field ∈ layout.fields, '=' ∈ field
  user : ∃ text, DecodesTo layout.user text
  password : ∃ text, DecodesTo layout.password text
  database : ∃ text, DecodesTo layout.database text

/-- A layout says what a connection string holds: its pieces decoded, the host list as it is, and
the fields of the query one after the other, so that the last value of a key counts. -/
structure Layout.Denotes (layout : Layout) (dsn : Dsn) : Prop where
  user : StandsFor layout.user dsn.user
  password : StandsFor layout.password dsn.password
  hostList : dsn.hostList
    = if layout.hostList = [] then none else some (String.ofList layout.hostList)
  database : StandsFor layout.database dsn.database
  fields : ∀ field ∈ layout.fields, '=' ∈ field
  query : dsn.query = TextMap.ofList (layout.fields.filterMap fieldPair?)

/-- What is wrong with a string that is none: it lacks a scheme or has another one; or a field of
its query lacks an equals sign; or a piece of it has no text, of user, password and database the
first one. -/
inductive Fault : String → ParameterError → Prop
  | noScheme {text : String} (colon : ':' ∉ text.toList) : Fault text (.invalidDsn "missing scheme")
  | scheme {scheme rest : List Char} (colon : ':' ∉ scheme) (ne : String.ofList scheme ≠ "edgedb") :
      Fault (String.ofList (scheme ++ ':' :: rest)) (.invalidScheme (String.ofList scheme))
  | field {layout : Layout} {before after : List (List Char)} {field : List Char}
      (fields : layout.fields = before ++ field :: after) (first : ∀ f ∈ before, '=' ∈ f)
      (lacks : '=' ∉ field) : Fault layout.text (.invalidQuery (String.ofList field))
  | piece {layout : Layout} {before after : List (List Char)} {piece : List Char}
      (fields : ∀ field ∈ layout.fields, '=' ∈ field)
      (pieces : [layout.user, layout.password, layout.database] = before ++ piece :: after)
      (first : ∀ p ∈ before, ∃ text, DecodesTo p text) (lacks : ¬ ∃ text, DecodesTo piece text) :
      Fault layout.text (undecodable piece)

namespace Layout

variable {layout : Layout} {dsn : Dsn} {e : ParameterError}

/-- Some connection string is what a readable layout says. -/
theorem readable_iff_exists_denotes : layout.Readable ↔ ∃ dsn, layout.Denotes dsn := by
  constructor
  · intro h
    obtain ⟨user, huser⟩ := exists_standsFor_iff.mpr h.user
    obtain ⟨password, hpassword⟩ := exists_standsFor_iff.mpr h.password
    obtain ⟨database, hdatabase⟩ := exists_standsFor_iff.mpr h.database
    exact ⟨⟨user, password, _, database, _⟩, huser, hpassword, rfl, hdatabase, h.fields, rfl⟩
  · rintro ⟨dsn, h⟩
    exact ⟨h.fields, exists_standsFor_iff.mp ⟨_, h.user⟩, exists_standsFor_iff.mp ⟨_, h.password⟩,
      exists_standsFor_iff.mp ⟨_, h.database⟩⟩

theorem readQuery_eq (layout : Layout) :
    readQuery (layout.query.getD [])
      = match layout.fields.find? fun field => '=' ∉ field with
        | some field => .error (.invalidQuery (String.ofList field))
        | none => .ok (TextMap.ofList (layout.fields.filterMap fieldPair?)) := by
  unfold readQuery fields
  by_cases hnil : layout.query.getD [] = []
  · rw [if_pos hnil, if_pos hnil]
    rfl
  · rw [if_neg hnil, if_neg hnil]
    exact foldlM_readField _ _

theorem readQuery_eq_ok_iff {m : TextMap String} :
    readQuery (layout.query.getD []) = .ok m
      ↔ (∀ field ∈ layout.fields, '=' ∈ field) ∧
        m = TextMap.ofList (layout.fields.filterMap fieldPair?) := by
  rw [readQuery_eq]
  cases h : layout.fields.find? fun field => '=' ∉ field with
  | none =>
    have hall : ∀ field ∈ layout.fields, '=' ∈ field := by
      intro field hfield
      simpa using List.find?_eq_none.mp h field hfield
    simp only [Except.ok.injEq]
    constructor
    · intro hm
      exact ⟨hall, hm.symm⟩
    · intro hm
      exact hm.2.symm
  | some field =>
    constructor
    · intro hm
      cases hm
    · rintro ⟨hall, -⟩
      have hmem : field ∈ layout.fields := List.mem_of_find?_eq_some h
      have hlacks := List.find?_some h
      exact absurd (hall field hmem) (by simpa using hlacks)

theorem readQuery_eq_error_iff :
    readQuery (layout.query.getD []) = .error e
      ↔ ∃ before field after, layout.fields = before ++ field :: after ∧
        (∀ f ∈ before, '=' ∈ f) ∧ '=' ∉ field ∧ e = .invalidQuery (String.ofList field) := by
  rw [readQuery_eq]
  constructor
  · intro h
    split at h
    next field hfield =>
      cases h
      obtain ⟨hlacks, before, after, hfields, hbefore⟩ := List.find?_eq_some_iff_append.mp hfield
      refine ⟨before, field, after, hfields, ?_, by simpa using hlacks, rfl⟩
      intro f hf
      simpa using hbefore f hf
    next => cases h
  · rintro ⟨before, field, after, hfields, hbefore, hlacks, rfl⟩
    have hfind : (layout.fields.find? fun field => '=' ∉ field) = some field := by
      refine List.find?_eq_some_iff_append.mpr ⟨by simpa using hlacks, before, after, hfields, ?_⟩
      intro f hf
      simpa using hbefore f hf
    rw [hfind]

/-- **What is read is what the layout says.** -/
theorem decode_parts_eq_ok_iff : layout.parts.decode = .ok dsn ↔ layout.Denotes dsn := by
  unfold Parts.decode
  constructor
  · intro h
    obtain ⟨query, hquery, h⟩ := bind_eq_ok_iff.mp h
    obtain ⟨user, huser, h⟩ := bind_eq_ok_iff.mp h
    obtain ⟨password, hpassword, h⟩ := bind_eq_ok_iff.mp h
    obtain ⟨database, hdatabase, h⟩ := bind_eq_ok_iff.mp h
    cases h
    obtain ⟨hfields, hmap⟩ := readQuery_eq_ok_iff.mp hquery
    exact ⟨decodePart_eq_ok_iff.mp huser, decodePart_eq_ok_iff.mp hpassword, rfl,
      decodePart_eq_ok_iff.mp hdatabase, hfields, hmap⟩
  · intro h
    obtain ⟨user, password, hostList, database, query⟩ := dsn
    have hquery := readQuery_eq_ok_iff.mpr ⟨h.fields, h.query⟩
    have hhosts := h.hostList
    dsimp only [parts] at hquery hhosts ⊢
    rw [hquery, decodePart_eq_ok_iff.mpr h.user, decodePart_eq_ok_iff.mpr h.password,
      decodePart_eq_ok_iff.mpr h.database, hhosts]
    rfl

/-- User, password and database are decoded in this order. -/
theorem decode_parts_eq_error_iff :
    layout.parts.decode = .error e
      ↔ readQuery (layout.query.getD []) = .error e ∨
        (∃ m, readQuery (layout.query.getD []) = .ok m) ∧
          [layout.user, layout.password, layout.database].mapM decodePart = .error e := by
  -- three pieces that are decoded in a row are one pass, and of a pass the first fault is known
  have hpieces : layout.parts.decode = readQuery (layout.query.getD []) >>= fun query =>
      ([layout.user, layout.password, layout.database].mapM decodePart).map fun values =>
        ⟨values.headD none, (values.drop 1).headD none, if layout.hostList = [] then none
          else some (String.ofList layout.hostList), (values.drop 2).headD none, query⟩ := by
    unfold Parts.decode
    refine bind_congr fun query => ?_
    simp only [List.mapM_cons, List.mapM_nil, parts]
    cases decodePart layout.user with
    | error e => rfl
    | ok user =>
      cases decodePart layout.password with
      | error e => rfl
      | ok password =>
        cases decodePart layout.database with
        | error e => rfl
        | ok database => rfl
  rw [hpieces, bind_eq_error_iff]
  simp only [map_eq_error_iff, exists_and_right]

/-- **What is not read has a fault**, the first one of its layout. -/
theorem fault_of_decode_parts (h : layout.parts.decode = .error e) : Fault layout.text e := by
  rcases decode_parts_eq_error_iff.mp h with h | ⟨⟨m, hquery⟩, h⟩
  · obtain ⟨before, field, after, hfields, hbefore, hlacks, rfl⟩ := readQuery_eq_error_iff.mp h
    exact .field hfields hbefore hlacks
  · obtain ⟨before, piece, after, hpieces, hbefore, hpiece⟩ := mapM_eq_error_iff.mp h
    obtain ⟨hlacks, rfl⟩ := decodePart_eq_error_iff.mp hpiece
    refine .piece (readQuery_eq_ok_iff.mp hquery).1 hpieces ?_ hlacks
    intro p hp
    obtain ⟨value, hvalue⟩ := hbefore p hp
    exact exists_standsFor_iff.mp ⟨value, decodePart_eq_ok_iff.mp hvalue⟩

end Layout

/-! ## Strings -/

/-- The first colon ends the scheme. -/
theorem parse_eq_of_scheme {scheme : List Char} (h : ':' ∉ scheme) (rest : List Char) :
    parse (String.ofList (scheme ++ ':' :: rest))
      = if String.ofList scheme = dsnScheme then (Parts.cut rest).decode
        else .error (.invalidScheme (String.ofList scheme)) := by
  have hcut : Text.cutAtFirst ':' (scheme ++ ':' :: rest) = some (scheme, rest) :=
    Text.cutAtFirst_eq_some_iff.mpr ⟨rfl, h⟩
  unfold parse
  rw [String.toList_ofList, hcut]

/-- A string has no colon, or it has another scheme, or it has a layout. -/
theorem eq_text_or_other (text : String) :
    ':' ∉ text.toList ∨
    (∃ scheme rest, ':' ∉ scheme ∧ String.ofList scheme ≠ dsnScheme ∧
      text = String.ofList (scheme ++ ':' :: rest)) ∨
    ∃ layout : Layout, layout.text = text := by
  cases hcut : Text.cutAtFirst ':' text.toList with
  | none => exact Or.inl (Text.cutAtFirst_eq_none_iff.mp hcut)
  | some parts =>
    obtain ⟨htext, hcolon⟩ := Text.cutAtFirst_eq_some_iff.mp hcut
    have hof : text = String.ofList (parts.1 ++ ':' :: parts.2) := by
      rw [← htext, String.ofList_toList]
    by_cases hscheme : String.ofList parts.1 = dsnScheme
    · obtain ⟨layout, hwritten⟩ := Layout.exists_written parts.2
      refine Or.inr (Or.inr ⟨layout, ?_⟩)
      rw [hof, Layout.text, hwritten, ← hscheme, String.toList_ofList]
    · exact Or.inr (Or.inl ⟨parts.1, parts.2, hcolon, hscheme, hof⟩)

theorem parse_eq_ok_iff {text : String} {dsn : Dsn} :
    parse text = .ok dsn ↔ ∃ layout : Layout, layout.text = text ∧ layout.Denotes dsn := by
  constructor
  · intro h
    -- only a string that has a layout comes as far as its pieces
    rcases eq_text_or_other text with hcolon | ⟨scheme, rest, hcolon, hscheme, rfl⟩ | ⟨layout, rfl⟩
    · unfold parse at h
      rw [Text.cutAtFirst_eq_none_iff.mpr hcolon] at h
      cases h
    · rw [parse_eq_of_scheme hcolon, if_neg hscheme] at h
      cases h
    · rw [layout.parse_text] at h
      exact ⟨layout, rfl, Layout.decode_parts_eq_ok_iff.mp h⟩
  · rintro ⟨layout, rfl, h⟩
    rw [layout.parse_text]
    exact Layout.decode_parts_eq_ok_iff.mpr h

theorem parse_eq_error_iff {text : String} {e : ParameterError} :
    parse text = .error e ↔ Fault text e := by
  constructor
  · intro h
    rcases eq_text_or_other text with hcolon | ⟨scheme, rest, hcolon, hscheme, rfl⟩ | ⟨layout, rfl⟩
    · unfold parse at h
      rw [Text.cutAtFirst_eq_none_iff.mpr hcolon] at h
      cases h
      exact .noScheme hcolon
    · rw [parse_eq_of_scheme hcolon, if_neg hscheme] at h
      cases h
      exact .scheme hcolon hscheme
    · rw [layout.parse_text] at h
      exact Layout.fault_of_decode_parts h
  · intro h
    cases h with
    | noScheme colon =>
      unfold parse
      rw [Text.cutAtFirst_eq_none_iff.mpr colon]
    | scheme colon ne =>
      rw [parse_eq_of_scheme colon]
      exact if_neg ne
    | @field layout before after field fields first lacks =>
      have hquery := Layout.readQuery_eq_error_iff.mpr
        ⟨before, field, after, fields, first, lacks, rfl⟩
      rw [layout.parse_text]
      exact Layout.decode_parts_eq_error_iff.mpr (Or.inl hquery)
    | @piece layout before after piece fields pieces first lacks =>
      have hquery := Layout.readQuery_eq_ok_iff.mpr ⟨fields, rfl⟩
      have hpiece := decodePart_eq_error_iff.mpr ⟨lacks, rfl⟩
      rw [layout.parse_text]
      refine Layout.decode_parts_eq_error_iff.mpr (Or.inr ⟨⟨_, hquery⟩, ?_⟩)
      refine mapM_eq_error_iff.mpr ⟨before, piece, after, pieces, ?_, hpiece⟩
      intro p hp
      obtain ⟨value, hvalue⟩ := exists_standsFor_iff.mpr (first p hp)
      exact ⟨value, decodePart_eq_ok_iff.mpr hvalue⟩

/-- The query is at fault before the user is. -/
example : parse "edgedb://%ff@h/?a" = .error (.invalidQuery "a") := by rfl

/-- **The grammar of connection strings.** A string is read exactly when it has a layout that can be
read; it has one layout at most, and what is read is what its layout says. A string that is not read
is reported with its first fault: the scheme before the query, and the query before the pieces. -/
theorem parse_by_layout (text : String) :
    ((∃ dsn, parse text = .ok dsn) ↔ ∃ layout : Layout, layout.text = text ∧ layout.Readable) ∧
    (∀ layout layout' : Layout, layout.text = text → layout'.text = text → layout = layout') ∧
    (∀ dsn, parse text = .ok dsn ↔ ∃ layout : Layout, layout.text = text ∧ layout.Denotes dsn) ∧
    ∀ e, parse text = .error e ↔ Fault text e := by
  refine ⟨?_, ?_, fun dsn => parse_eq_ok_iff, fun e => parse_eq_error_iff⟩
  · simp only [parse_eq_ok_iff, Layout.readable_iff_exists_denotes]
    constructor
    · rintro ⟨dsn, layout, htext, h⟩
      exact ⟨layout, htext, dsn, h⟩
    · rintro ⟨layout, htext, dsn, h⟩
      exact ⟨dsn, layout, htext, h⟩
  · intro layout layout' h h'
    exact Layout.text_inj (h.trans h'.symm)

end SessionPlan.Dsn
