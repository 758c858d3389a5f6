/-
Connection strings: what was printed is read back, and what was read can be printed.

The reader cuts a string six times, at the first or at the last of some delimiter. The printer
encodes every part but the host list, so the only delimiters in its output are those that it put
there itself and those of the host list. A host list without `/`, `?`, `#` and `@` keeps clear of
all the cuts, and this is also what the cuts leave of any string: the conditions under which a
connection string comes back are those that every connection string that was read satisfies.

An empty part counts as absent, and a field without a value says nothing; so no part that is there
may be empty, and no value either. A key may.
-/
import SessionPlan.Dsn.Printer
import SessionPlan.Proofs.Percent
import SessionPlan.Proofs.Query

set_option autoImplicit false

namespace SessionPlan

namespace Dsn

/-- The delimiters that end an authority. -/
def authorityDelimiters : List Char := ['/', '?', '#']

/-- The delimiters that no host list holds: on top of those that end it, the one in front of it. -/
def hostDelimiters : List Char := '@' :: authorityDelimiters

/-- What can be printed and read back: no part that is there is empty, the host list has no
delimiter in it, and no query field is without a value. -/
structure Printable (dsn : Dsn) : Prop where
  user : dsn.user ≠ some ""
  password : dsn.password ≠ some ""
  hostList : dsn.hostList ≠ some ""
  host_delimiters : ∀ c ∈ hostDelimiters, c ∉ (dsn.hostList.getD "").toList
  database : dsn.database ≠ some ""
  query : ∀ entry ∈ dsn.query.entries, entry.2 ≠ ""

/-! ## Cuts -/

theorem cutOff_of_not_mem {sep : Char} {s : List Char} (h : sep ∉ s) :
    Text.cutOff sep s = (s, []) := by
  rw [Text.cutOff, Text.cutAtFirst_eq_none_iff.mpr h, Option.getD_none]

theorem cutOff_append {sep : Char} {s : List Char} (h : sep ∉ s) (t : List Char) :
    Text.cutOff sep (s ++ sep :: t) = (s, t) := by
  rw [Text.cutOff, Text.cutAtFirst_eq_some_iff.mpr ⟨rfl, h⟩, Option.getD_some]

/-- What a cut leaves in front of the delimiter holds none. -/
theorem not_mem_cutOff (sep : Char) (s : List Char) : sep ∉ (Text.cutOff sep s).1 := by
  rw [Text.cutOff]
  cases h : Text.cutAtFirst sep s with
  | none => exact Text.cutAtFirst_eq_none_iff.mp h
  | some parts => exact (Text.cutAtFirst_eq_some_iff.mp h).2

theorem mem_of_mem_cutOff {sep c : Char} {s : List Char} (h : c ∈ (Text.cutOff sep s).1) :
    c ∈ s := by
  rw [Text.cutOff] at h
  cases hs : Text.cutAtFirst sep s with
  | none => rwa [hs] at h
  | some parts =>
    rw [hs] at h
    rw [(Text.cutAtFirst_eq_some_iff.mp hs).1]
    exact List.mem_append_left _ h

theorem cutAuthority_append {authority : List Char} (h : '/' ∉ authority) (path : List Char) :
    cutAuthority ('/' :: '/' :: authority ++ '/' :: path) = (authority, '/' :: path) := by
  have hall : ∀ c ∈ authority, decide (c ≠ '/') = true :=
    fun c hc => decide_eq_true fun heq => h (heq ▸ hc)
  show ((authority ++ '/' :: path).takeWhile _, (authority ++ '/' :: path).dropWhile _) = _
  rw [List.takeWhile_append_of_pos hall, List.dropWhile_append_of_pos hall,
    List.takeWhile_cons_of_neg (by decide), List.dropWhile_cons_of_neg (by decide), List.append_nil]

/-- An authority holds no slash, and no character that was not there before. -/
theorem not_mem_cutAuthority {c : Char} {s : List Char} (h : c = '/' ∨ c ∉ s) :
    c ∉ (cutAuthority s).1 := by
  rw [cutAuthority.eq_def]
  split
  next r =>
    intro hc
    rcases h with rfl | h
    · have hall : (r.takeWhile (· ≠ '/')).all (· ≠ '/') = true := List.all_takeWhile
      simpa using List.all_eq_true.mp hall '/' hc
    · exact h (List.mem_cons_of_mem _ (List.mem_cons_of_mem _ (List.takeWhile_subset _ hc)))
  next => exact List.not_mem_nil

/-! ## The host list -/

/-- The authority of a string to cut. -/
def authority (s : List Char) : List Char :=
  (cutAuthority (Text.cutOff '?' (Text.cutOff '#' s).1).1).1

theorem not_mem_authority (s : List Char) : ∀ c ∈ authorityDelimiters, c ∉ authority s := by
  intro c hc
  refine not_mem_cutAuthority ?_
  rcases List.mem_cons.mp hc with rfl | hc
  · exact Or.inl rfl
  right
  rcases List.mem_cons.mp hc with rfl | hc
  · exact not_mem_cutOff '?' _
  rw [List.mem_singleton.mp hc]
  exact fun hmem => not_mem_cutOff '#' s (mem_of_mem_cutOff hmem)

/-- **The host list of a cut.** Whatever was cut, its host list holds no delimiter. -/
theorem not_mem_hostList_cut (s : List Char) :
    ∀ c ∈ hostDelimiters, c ∉ (Parts.cut s).hostList := by
  have hcut : (Parts.cut s).hostList
      = ((Text.cutAtLast '@' (authority s)).getD ([], authority s)).2 := rfl
  intro c hc
  rw [hcut]
  cases hat : Text.cutAtLast '@' (authority s) with
  | none =>
    rcases List.mem_cons.mp hc with rfl | hc
    · exact Text.cutAtLast_eq_none_iff.mp hat
    · exact not_mem_authority s c hc
  | some parts =>
    obtain ⟨happend, hafter⟩ := Text.cutAtLast_eq_some_iff.mp hat
    rcases List.mem_cons.mp hc with rfl | hc
    · exact hafter
    · -- what stands behind the last `@` is a piece of the authority
      refine fun hmem => not_mem_authority s c hc ?_
      rw [happend]
      exact List.mem_append_right _ (List.mem_cons_of_mem _ hmem)

/-! ## What was read can be printed -/

theorem ne_empty_of_decodePart {part : List Char} {d : Option String}
    (h : decodePart part = .ok d) : d ≠ some "" := by
  rw [decodePart] at h
  split at h
  next => cases h; exact (Option.some_ne_none "").symm
  next hne =>
    split at h
    next text htext =>
      cases h
      intro hempty
      exact Text.Percent.ne_nil_of_decode? htext hne
        (String.ofList_eq_empty_iff.mp (Option.some.inj hempty))
    next => cases h

theorem printable_of_decode {parts : Parts} {dsn : Dsn} (h : parts.decode = .ok dsn)
    (hhost : ∀ c ∈ hostDelimiters, c ∉ parts.hostList) : dsn.Printable := by
  obtain ⟨query, hquery, h⟩ := bind_eq_ok_iff.mp h
  obtain ⟨user, huser, h⟩ := bind_eq_ok_iff.mp h
  obtain ⟨password, hpassword, h⟩ := bind_eq_ok_iff.mp h
  obtain ⟨database, hdatabase, h⟩ := bind_eq_ok_iff.mp h
  cases h
  refine ⟨ne_empty_of_decodePart huser, ne_empty_of_decodePart hpassword, ?_, ?_,
    ne_empty_of_decodePart hdatabase, fun entry hentry => value_ne_empty_of_readQuery hquery hentry⟩
  · show (if parts.hostList = [] then none else some (String.ofList parts.hostList)) ≠ some ""
    split
    next => exact (Option.some_ne_none "").symm
    next hne => exact fun hempty => hne (String.ofList_eq_empty_iff.mp (Option.some.inj hempty))
  · intro c hc
    show c ∉ ((if parts.hostList = [] then none
      else some (String.ofList parts.hostList)).getD "").toList
    split
    next => exact List.not_mem_nil
    next => rw [Option.getD_some, String.toList_ofList]; exact hhost c hc

/-- **What was read can be printed.** -/
theorem printable_of_parse {text : String} {dsn : Dsn} (h : parse text = .ok dsn) :
    dsn.Printable := by
  rw [parse] at h
  split at h
  next => cases h
  next rest _ =>
    split at h
    next => exact printable_of_decode h (not_mem_hostList_cut rest)
    next => cases h

/-! ## What was printed can be read

Every delimiter is foreign to encoded texts, so `by decide` settles where it stands. -/

/-- **Decoding an encoded part.** -/
theorem decodePart_encode {part : Option String} (h : part ≠ some "") :
    decodePart (Text.Percent.encode (part.getD "").toList) = .ok part := by
  cases part with
  | none => rfl
  | some text =>
    have htext : text.toList ≠ [] :=
      fun hnil => h (congrArg some (String.toList_eq_nil_iff.mp hnil))
    rw [Option.getD_some, decodePart, if_neg (mt Text.Percent.encode_eq_nil_iff.mp htext),
      Text.Percent.decode?_encode]
    show Except.ok (some (String.ofList text.toList)) = _
    rw [String.ofList_toList]

/-- A printed field is read as the entry that it was made from, unless the value is empty. -/
theorem fieldPair?_printField {field : String × String} (h : field.2 ≠ "") :
    fieldPair? (printField field) = some field := by
  have hcut : Text.cutAtFirst '=' (printField field)
      = some (Text.Percent.encode field.1.toList, Text.Percent.encode field.2.toList) :=
    Text.cutAtFirst_eq_some_iff.mpr ⟨rfl, Text.Percent.not_mem_encode (by decide) _⟩
  have hvalue : field.2.toList ≠ [] := fun hnil => h (String.toList_eq_nil_iff.mp hnil)
  rw [fieldPair?, hcut, Option.bind_some, Text.Percent.decodeForm_encode, if_neg hvalue,
    Text.Percent.decodeForm_encode, String.ofList_toList, String.ofList_toList]

theorem eq_mem_printField (field : String × String) : '=' ∈ printField field :=
  List.mem_append_right _ List.mem_cons_self

/-- A printed field holds no delimiter but its equals sign. -/
theorem not_mem_printField {c : Char} (h : Text.Percent.isPlain c = false) (heq : c ≠ '=')
    (field : String × String) : c ∉ printField field := by
  rw [printField, List.mem_append, List.mem_cons, not_or, not_or]
  exact ⟨Text.Percent.not_mem_encode h _, heq, Text.Percent.not_mem_encode h _⟩

/-- **Reading printed fields.** -/
theorem readQuery_printField {fields : List (String × String)}
    (h : ∀ field ∈ fields, field.2 ≠ "") :
    readQuery (['&'].intercalate (fields.map printField)) = .ok (TextMap.ofList fields) := by
  cases fields with
  | nil => rfl
  | cons field fields =>
    -- one field that holds something keeps the query from being empty
    have hmem : printField field ∈ (field :: fields).map printField :=
      List.mem_map_of_mem List.mem_cons_self
    have hsplit : ∀ f ∈ (field :: fields).map printField, '&' ∉ f := by
      intro f hf
      obtain ⟨e, -, rfl⟩ := List.mem_map.mp hf
      exact not_mem_printField (by decide) (by decide) e
    have heq : ∀ f ∈ (field :: fields).map printField, '=' ∈ f := by
      intro f hf
      obtain ⟨e, -, rfl⟩ := List.mem_map.mp hf
      exact eq_mem_printField e
    have hentries : ((field :: fields).map printField).filterMap fieldPair? = field :: fields := by
      rw [List.filterMap_map]
      refine (List.filterMap_congr fun e he => ?_).trans List.filterMap_some
      exact fieldPair?_printField (h e he)
    rw [readQuery_intercalate hsplit hmem (List.ne_nil_of_mem (eq_mem_printField field)),
      foldlM_readField_of_forall_mem heq, hentries]
    rfl

theorem not_mem_intercalate {c sep : Char} (hsep : c ≠ sep) {fields : List (List Char)}
    (h : ∀ field ∈ fields, c ∉ field) : c ∉ [sep].intercalate fields := by
  induction fields with
  | nil => exact List.not_mem_nil
  | cons field fields ih =>
    have hfield : c ∉ field := h field List.mem_cons_self
    have hfields : c ∉ [sep].intercalate fields :=
      ih fun f hf => h f (List.mem_cons_of_mem _ hf)
    cases fields with
    | nil => rwa [List.intercalate_singleton]
    | cons f fs =>
      rw [List.intercalate_cons_cons, List.mem_append, List.mem_append, List.mem_singleton]
      rintro ((hc | hc) | hc)
      · exact hfield hc
      · exact hsep hc
      · exact hfields hc

/-- The user information holds no delimiter but its own two. -/
theorem not_mem_printUserInfo {c : Char} (h : Text.Percent.isPlain c = false) (hat : c ≠ '@')
    (hcolon : c ≠ ':') (user password : Option String) : c ∉ printUserInfo user password := by
  have hencode := Text.Percent.not_mem_encode h
  rw [printUserInfo.eq_def]
  split
  · exact List.not_mem_nil
  · simp [hencode, hat]
  · simp [hencode, hat, hcolon]

/-- **Reading the user information.** The last `@` ends it, and its first colon separates user and
password. -/
theorem cutUserInfo (user password : Option String) {hostList : List Char} (h : '@' ∉ hostList) :
    ∃ userInfo, (Text.cutAtLast '@' (printUserInfo user password ++ hostList)).getD
        ([], printUserInfo user password ++ hostList) = (userInfo, hostList)
      ∧ Text.cutOff ':' userInfo = (Text.Percent.encode (user.getD "").toList,
          Text.Percent.encode (password.getD "").toList) := by
  have hcolon : ∀ s, ':' ∉ Text.Percent.encode s := Text.Percent.not_mem_encode (by decide)
  have hlast : ∀ userInfo, Text.cutAtLast '@' ((userInfo ++ ['@']) ++ hostList)
      = some (userInfo, hostList) := by
    intro userInfo
    rw [List.append_assoc]
    exact Text.cutAtLast_eq_some_iff.mpr ⟨rfl, h⟩
  rw [printUserInfo.eq_def]
  split
  · -- nothing is printed, and there is no `@` to cut at
    refine ⟨[], ?_, rfl⟩
    rw [List.nil_append, Text.cutAtLast_eq_none_iff.mpr h, Option.getD_none]
  · -- a user without a password: no colon was printed
    refine ⟨_, by rw [hlast, Option.getD_some], ?_⟩
    exact cutOff_of_not_mem (hcolon _)
  · -- a password, with or without a user: the printed colon is the first one
    refine ⟨_, by rw [hlast, Option.getD_some], ?_⟩
    exact cutOff_append (hcolon _) _

/-- The delimiters that end an authority are none of those that the printer puts inside it. -/
theorem foreign_of_mem_authorityDelimiters {c : Char} (h : c ∈ authorityDelimiters) :
    Text.Percent.isPlain c = false ∧ c ≠ '@' ∧ c ≠ ':' := by
  rcases List.mem_cons.mp h with rfl | h
  · decide
  rcases List.mem_cons.mp h with rfl | h
  · decide
  rw [List.mem_singleton.mp h]
  decide

/-- **Cutting a string that was put together.** The outer cuts fall where they should if no part in
front of a delimiter holds that delimiter. -/
theorem cut_eq {authority database query : List Char}
    (hauthority : ∀ c ∈ authorityDelimiters, c ∉ authority)
    (hdatabase : ∀ c ∈ ['?', '#'], c ∉ database) (hquery : '#' ∉ query)
    {userInfo hostList user password : List Char}
    (hat : (Text.cutAtLast '@' authority).getD ([], authority) = (userInfo, hostList))
    (hcolon : Text.cutOff ':' userInfo = (user, password)) :
    Parts.cut (('/' :: '/' :: authority ++ '/' :: database) ++ '?' :: query)
      = ⟨user, password, hostList, database, query⟩ := by
  have hhierarchy : ∀ c ∈ ['?', '#'], c ∉ '/' :: '/' :: authority ++ '/' :: database := by
    intro c hc
    have hslash : c ≠ '/' := by
      rintro rfl
      exact absurd hc (by decide)
    have ha : c ∉ authority := hauthority c (List.mem_cons_of_mem _ hc)
    simp [hslash, ha, hdatabase c hc]
  have hfragment : '#' ∉ ('/' :: '/' :: authority ++ '/' :: database) ++ '?' :: query := by
    rw [List.mem_append, List.mem_cons, not_or, not_or]
    exact ⟨hhierarchy '#' (by decide), by decide, hquery⟩
  -- the cuts from the outside in: fragment, query, authority, user information
  simp only [Parts.cut, cutOff_of_not_mem hfragment, cutOff_append (hhierarchy '?' (by decide)),
    cutAuthority_append (hauthority '/' (by decide)), hat, hcolon, dropSlash]

/-- The scheme ends at the first colon. -/
theorem parse_scheme (rest : List Char) :
    parse (String.ofList (dsnScheme.toList ++ ':' :: rest)) = (Parts.cut rest).decode := by
  have hcut : Text.cutAtFirst ':' (dsnScheme.toList ++ ':' :: rest)
      = some (dsnScheme.toList, rest) := Text.cutAtFirst_eq_some_iff.mpr ⟨rfl, by decide⟩
  rw [parse, String.toList_ofList, hcut]
  show (if String.ofList dsnScheme.toList = dsnScheme then _ else _) = _
  rw [if_pos String.ofList_toList]

/-- **What was printed can be read**, with the query fields in any order. -/
theorem parse_print_of_printable {dsn : Dsn} (h : dsn.Printable) {fields : List (String × String)}
    (hfields : fields.Perm dsn.query.entries) : parse (print dsn fields) = .ok dsn := by
  obtain ⟨userInfo, hat, hcolon⟩ := cutUserInfo dsn.user dsn.password
    (h.host_delimiters '@' (by decide))
  have hauthority : ∀ c ∈ authorityDelimiters,
      c ∉ printUserInfo dsn.user dsn.password ++ (dsn.hostList.getD "").toList := by
    intro c hc
    obtain ⟨hplain, hat, hcolon⟩ := foreign_of_mem_authorityDelimiters hc
    rw [List.mem_append, not_or]
    exact ⟨not_mem_printUserInfo hplain hat hcolon _ _,
      h.host_delimiters c (List.mem_cons_of_mem _ hc)⟩
  have hdatabase : ∀ c ∈ ['?', '#'], c ∉ Text.Percent.encode (dsn.database.getD "").toList := by
    intro c hc
    obtain ⟨hplain, -⟩ := foreign_of_mem_authorityDelimiters (List.mem_cons_of_mem '/' hc)
    exact Text.Percent.not_mem_encode hplain _
  have hquery : '#' ∉ ['&'].intercalate (fields.map printField) := by
    refine not_mem_intercalate (by decide) fun f hf => ?_
    obtain ⟨e, -, rfl⟩ := List.mem_map.mp hf
    exact not_mem_printField (by decide) (by decide) e
  have hprint : print dsn fields = String.ofList (dsnScheme.toList ++ ':' ::
      (('/' :: '/' :: (printUserInfo dsn.user dsn.password ++ (dsn.hostList.getD "").toList)
          ++ '/' :: Text.Percent.encode (dsn.database.getD "").toList)
        ++ '?' :: ['&'].intercalate (fields.map printField))) := by
    have hslashes : "://".toList = [':', '/', '/'] := rfl
    simp only [print, hslashes, List.append_assoc, List.cons_append, List.nil_append]
  have hvalues : ∀ field ∈ fields, field.2 ≠ "" :=
    fun field hfield => h.query field (hfields.subset hfield)
  -- the host list is not encoded, and an empty one stands for none
  have hhost : (if (dsn.hostList.getD "").toList = [] then none
      else some (String.ofList (dsn.hostList.getD "").toList)) = dsn.hostList := by
    cases hhost : dsn.hostList with
    | none => rfl
    | some text =>
      have htext : text.toList ≠ [] := fun hnil => h.hostList
        (hhost.trans (congrArg some (String.toList_eq_nil_iff.mp hnil)))
      rw [Option.getD_some, if_neg htext, String.ofList_toList]
  -- the parts are now the encoded ones, and each decoder gives back what was encoded
  rw [hprint, parse_scheme, cut_eq hauthority hdatabase hquery hat hcolon, Parts.decode]
  simp only [readQuery_printField hvalues, TextMap.ofList_of_perm hfields,
    decodePart_encode h.user, decodePart_encode h.password, decodePart_encode h.database, ok_bind,
    hhost]
  rfl

/-- **Round trip.** A connection string that can be printed is read back from what was printed, with
the query fields in any order. Every connection string that was read can be printed, and so it comes
back as well. -/
theorem print_round_trip :
    (∀ (dsn : Dsn) (fields : List (String × String)), dsn.Printable →
      fields.Perm dsn.query.entries → parse (print dsn fields) = .ok dsn) ∧
    ∀ (text : String) (dsn : Dsn), parse text = .ok dsn → dsn.Printable ∧
      ∀ fields : List (String × String), fields.Perm dsn.query.entries →
        parse (print dsn fields) = .ok dsn := by
  refine ⟨fun dsn fields h hfields => parse_print_of_printable h hfields, fun text dsn h => ?_⟩
  have hprintable : dsn.Printable := printable_of_parse h
  exact ⟨hprintable, fun fields hfields => parse_print_of_printable hprintable hfields⟩

/-- Delimiters in the parts, an empty key, a password without a user, fields out of order; and a
string with two `@`, two slashes and a key that occurs twice. -/
theorem print_round_trip_of_delimiters :
    let given : Dsn := { password := some "p:/@#", hostList := some "h:1,[::1]",
                         database := some "a/b?", query := .ofList [("", "&="), ("k+", "é%")] }
    let read : Dsn := { user := some "a@b", password := some "c", hostList := some "h",
                        database := some "/", query := .ofList [("k", "%")] }
    parse (print given [("k+", "é%"), ("", "&=")]) = .ok given ∧
      parse "edgedb://a@b:c@h//?k=+&k=%" = .ok read ∧
        parse (print read [("k", "%")]) = .ok read := by
  intro given read
  have hdelimiters : hostDelimiters.all (fun c => c ∉ "h:1,[::1]".toList) = true := by decide
  have hgiven : given.Printable :=
    { user := by decide
      password := by decide
      hostList := by decide
      host_delimiters := fun c hc => of_decide_eq_true (List.all_eq_true.mp hdelimiters c hc)
      database := by decide
      query := by decide }
  have hparse : parse "edgedb://a@b:c@h//?k=+&k=%" = .ok read := rfl
  exact ⟨print_round_trip.1 given _ hgiven (by decide), hparse,
    (print_round_trip.2 _ read hparse).2 _ (by decide)⟩

end Dsn

end SessionPlan
