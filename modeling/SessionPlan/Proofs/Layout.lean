/-
Layouts: a string behind the scheme and its colon is the written form of one layout.

Each cut of the reader falls where the layout put its delimiter, since the text that the cut goes
through is free of it. So the reader gets the pieces of the layout back. For the same reason a
layout is determined by its written form; and cutting any string, piece by piece, leaves a layout
behind.
-/
import SessionPlan.Dsn.Layout
import SessionPlan.Proofs.DsnRoundTrip

set_option autoImplicit false

namespace SessionPlan.Dsn

/-! ## Marked pieces

A piece with its delimiter in front is cut off again where the text before it is free of the
delimiter. -/

section Marked

variable {sep : Char} {s s' : List Char}

/-- A cut at the delimiter falls where the piece is marked, and there is none without a piece. -/
theorem cutAtFirst_append_marked (h : sep ∉ s) (piece? : Option (List Char)) :
    Text.cutAtFirst sep (s ++ marked sep piece?) = piece?.map fun piece => (s, piece) := by
  cases piece? with
  | none =>
    rw [marked, List.append_nil]
    exact Text.cutAtFirst_eq_none_iff.mpr h
  | some piece => exact Text.cutAtFirst_eq_some_iff.mpr ⟨rfl, h⟩

/-- The reader takes an absent piece for an empty one. -/
theorem cutOff_append_marked (h : sep ∉ s) (piece? : Option (List Char)) :
    Text.cutOff sep (s ++ marked sep piece?) = (s, piece?.getD []) := by
  rw [Text.cutOff, cutAtFirst_append_marked h]
  cases piece? with
  | none => rw [marked, List.append_nil]; rfl
  | some piece => rfl

/-- **One way to cut.** The text before a marked piece and the piece are determined by both
together. -/
theorem append_marked_inj (h : sep ∉ s) (h' : sep ∉ s') {piece? piece?' : Option (List Char)}
    (heq : s ++ marked sep piece? = s' ++ marked sep piece?') : s = s' ∧ piece? = piece?' := by
  -- both are cut at the same place, and the cut tells a piece that is empty from none
  have hcut : piece?.map (fun piece => (s, piece)) = piece?'.map fun piece => (s', piece) := by
    rw [← cutAtFirst_append_marked h, heq, cutAtFirst_append_marked h']
  cases piece? with
  | none =>
    cases piece?' with
    | none =>
      simp only [marked, List.append_nil] at heq
      exact ⟨heq, rfl⟩
    | some piece' => cases hcut
  | some piece =>
    cases piece?' with
    | none => cases hcut
    | some piece' =>
      cases hcut
      exact ⟨rfl, rfl⟩

/-- Every text is one without the delimiter and perhaps a marked piece. -/
theorem exists_append_marked (sep : Char) (s : List Char) :
    ∃ before piece?, s = before ++ marked sep piece? ∧ sep ∉ before := by
  cases h : Text.cutAtFirst sep s with
  | none => exact ⟨s, none, (List.append_nil s).symm, Text.cutAtFirst_eq_none_iff.mp h⟩
  | some parts =>
    obtain ⟨hs, hn⟩ := Text.cutAtFirst_eq_some_iff.mp h
    exact ⟨parts.1, some parts.2, hs, hn⟩

/-- Marking a piece adds its delimiter and nothing else. -/
theorem mem_marked {c : Char} {piece? : Option (List Char)} (hc : c ∈ marked sep piece?) :
    c = sep ∨ c ∈ piece?.getD [] := by
  cases piece? with
  | none => exact absurd hc List.not_mem_nil
  | some piece => exact List.mem_cons.mp hc

theorem mem_marked_of_mem {c : Char} {piece? : Option (List Char)} (hc : c ∈ piece?.getD []) :
    c ∈ marked sep piece? := by
  cases piece? with
  | none => exact absurd hc List.not_mem_nil
  | some piece => exact List.mem_cons_of_mem _ hc

end Marked

/-! ## User information and authority

The same three facts are shown at every level, from the user information up to the whole layout. The
written form is free of the delimiters that end it further out (`not_mem_written`), so that the cuts
outside pass over it. It determines what was written (`written_inj`). And every text that is free of
these delimiters is the written form of something (`exists_written`). -/

/-- User information does not end the authority that it stands in. -/
theorem UserInfo.not_mem_written (info : UserInfo) {c : Char} (hc : c ∈ ['/', '?', '#']) :
    c ∉ info.written := by
  have hcolon : c ≠ ':' := by
    rintro rfl
    exact absurd hc (by decide)
  rw [written, List.mem_append, not_or]
  refine ⟨info.user_free c (List.mem_cons_of_mem _ hc), fun hmem => ?_⟩
  rcases mem_marked hmem with h | h
  · exact hcolon h
  · exact info.password_free c hc h

/-- The first colon tells the user and the password apart. -/
theorem UserInfo.written_inj {info info' : UserInfo} (h : info.written = info'.written) :
    info = info' := by
  obtain ⟨huser, hpassword⟩ := append_marked_inj (info.user_free ':' (by decide))
    (info'.user_free ':' (by decide)) h
  cases info
  cases info'
  cases huser
  cases hpassword
  rfl

/-- Every text without the delimiters of an authority is user information. -/
theorem UserInfo.exists_written {s : List Char} (h : ∀ c ∈ ['/', '?', '#'], c ∉ s) :
    ∃ info : UserInfo, info.written = s := by
  obtain ⟨user, password, rfl, hcolon⟩ := exists_append_marked ':' s
  have huser : ∀ c ∈ [':', '/', '?', '#'], c ∉ user := by
    intro c hc
    rcases List.mem_cons.mp hc with rfl | hc
    · exact hcolon
    · exact fun hmem => h c hc (List.mem_append_left _ hmem)
  have hpassword : ∀ c ∈ ['/', '?', '#'], c ∉ password.getD [] :=
    fun c hc hmem => h c hc (List.mem_append_right _ (mem_marked_of_mem hmem))
  exact ⟨⟨user, password, huser, hpassword⟩, rfl⟩

/-- An authority does not contain what follows it: an `@` inside belongs to none of the three. -/
theorem Authority.not_mem_written (authority : Authority) {c : Char}
    (hc : c ∈ ['/', '?', '#']) : c ∉ authority.written := by
  have hhosts : c ∉ authority.hostList := authority.hostList_free c (List.mem_cons_of_mem _ hc)
  unfold written
  split
  · exact hhosts
  next info _ =>
    have hat : c ≠ '@' := by
      rintro rfl
      exact absurd hc (by decide)
    rw [List.mem_append, List.mem_cons, not_or, not_or]
    exact ⟨info.not_mem_written hc, hat, hhosts⟩

/-- The last `@` of an authority ends its user information. -/
theorem Authority.cutAtLast_written (authority : Authority) :
    Text.cutAtLast '@' authority.written
      = authority.userInfo.map fun info => (info.written, authority.hostList) := by
  have hat : '@' ∉ authority.hostList := authority.hostList_free '@' (by decide)
  unfold written
  cases authority.userInfo with
  | none => exact Text.cutAtLast_eq_none_iff.mpr hat
  | some info => exact Text.cutAtLast_eq_some_iff.mpr ⟨rfl, hat⟩

/-- The last `@` tells the user information and the hosts apart, and whether there is any. -/
theorem Authority.written_inj {authority authority' : Authority}
    (h : authority.written = authority'.written) : authority = authority' := by
  have hcut := authority.cutAtLast_written
  rw [h, authority'.cutAtLast_written] at hcut
  -- the proofs inside the two structures follow once their data agree
  obtain ⟨userInfo, hostList, _⟩ := authority
  obtain ⟨userInfo', hostList', _⟩ := authority'
  cases userInfo with
  | none =>
    cases userInfo' with
    | none =>
      have hhosts : hostList = hostList' := h
      cases hhosts
      rfl
    | some info' => cases hcut
  | some info =>
    cases userInfo' with
    | none => cases hcut
    | some info' =>
      have hpair := Option.some.inj hcut
      have hinfo : info' = info := UserInfo.written_inj (congrArg Prod.fst hpair)
      have hhosts : hostList' = hostList := congrArg Prod.snd hpair
      cases hinfo
      cases hhosts
      rfl

/-- Every text without the delimiters behind an authority is an authority. -/
theorem Authority.exists_written {s : List Char} (h : ∀ c ∈ ['/', '?', '#'], c ∉ s) :
    ∃ authority : Authority, authority.written = s := by
  cases hcut : Text.cutAtLast '@' s with
  | none =>
    -- hosts only
    have hfree : ∀ c ∈ ['@', '/', '?', '#'], c ∉ s := by
      intro c hc
      rcases List.mem_cons.mp hc with rfl | hc
      · exact Text.cutAtLast_eq_none_iff.mp hcut
      · exact h c hc
    exact ⟨⟨none, s, hfree⟩, rfl⟩
  | some parts =>
    -- what stands before the cut inherits its freedom from the whole
    obtain ⟨hs, hat⟩ := Text.cutAtLast_eq_some_iff.mp hcut
    have hinfo : ∀ c ∈ ['/', '?', '#'], c ∉ parts.1 := by
      intro c hc hmem
      exact h c hc (by rw [hs]; exact List.mem_append_left _ hmem)
    have hhosts : ∀ c ∈ ['@', '/', '?', '#'], c ∉ parts.2 := by
      intro c hc
      rcases List.mem_cons.mp hc with rfl | hc
      · exact hat
      · intro hmem
        exact h c hc (by rw [hs]; exact List.mem_append_right _ (List.mem_cons_of_mem _ hmem))
    obtain ⟨info, hwritten⟩ := UserInfo.exists_written hinfo
    refine ⟨⟨some info, parts.2, hhosts⟩, ?_⟩
    show info.written ++ '@' :: parts.2 = s
    rw [hwritten, hs]

/-! ## Authority and path -/

namespace Layout

/-- Authority and path do not contain what ends them. -/
theorem not_mem_hierarchy (layout : Layout) {c : Char} (hc : c ∈ ['?', '#']) :
    c ∉ layout.hierarchy := by
  have hpath : c ∉ layout.path := layout.path_free c hc
  unfold hierarchy
  split
  · exact hpath
  next authority _ =>
    have hslash : c ≠ '/' := by
      rintro rfl
      exact absurd hc (by decide)
    have hauthority : c ∉ authority.written :=
      authority.not_mem_written (List.mem_cons_of_mem _ hc)
    simp only [List.cons_append, List.mem_cons, List.mem_append, not_or]
    exact ⟨hslash, hslash, hauthority, hpath⟩

/-- The authority ends where the path begins. -/
theorem cutAuthority_hierarchy (layout : Layout) :
    cutAuthority layout.hierarchy
      = ((layout.authority.map Authority.written).getD [], layout.path) := by
  have hstart := layout.path_start
  unfold hierarchy
  cases hauthority : layout.authority with
  | none =>
    -- the path does not start with the two slashes that would be taken for an authority
    rw [hauthority] at hstart
    have hslashes : ∀ r, layout.path ≠ '/' :: '/' :: r := by
      intro r hr
      apply hstart
      rw [hr]
      exact ⟨r, rfl⟩
    show cutAuthority layout.path = ([], layout.path)
    unfold cutAuthority
    split
    next r hr => exact absurd hr (hslashes r)
    next => rfl
  | some authority =>
    rw [hauthority] at hstart
    have hfree : '/' ∉ authority.written := authority.not_mem_written (by decide)
    rcases hstart with hnil | hslash
    · -- an empty path: the authority reaches to the end
      have hall : ∀ c ∈ authority.written, decide (c ≠ '/') = true :=
        fun c hc => decide_eq_true fun heq => hfree (heq ▸ hc)
      rw [hnil]
      show ((authority.written ++ []).takeWhile _, (authority.written ++ []).dropWhile _) = _
      rw [List.takeWhile_append_of_pos hall, List.dropWhile_append_of_pos hall]
      simp
    · -- otherwise it reaches to the slash in front of the path
      cases hpath : layout.path with
      | nil =>
        rw [hpath] at hslash
        cases hslash
      | cons c path =>
        rw [hpath] at hslash
        cases hslash
        exact cutAuthority_append hfree path

/-- Two slashes in front tell whether there is an authority. -/
theorem isSome_authority_iff (layout : Layout) :
    layout.authority.isSome = true ↔ ['/', '/'] <+: layout.hierarchy := by
  have hstart := layout.path_start
  unfold hierarchy
  cases hauthority : layout.authority with
  | none =>
    rw [hauthority] at hstart
    exact ⟨fun h => (by cases h), fun h => absurd h hstart⟩
  | some authority =>
    constructor
    · intro _
      exact ⟨authority.written ++ layout.path, rfl⟩
    · intro _
      rfl

/-- Authority and path are determined by what is written: the two slashes tell whether there is an
authority, and the next one where it ends. -/
theorem hierarchy_inj {layout layout' : Layout} (h : layout.hierarchy = layout'.hierarchy) :
    layout.authority = layout'.authority ∧ layout.path = layout'.path := by
  have hcut := layout.cutAuthority_hierarchy
  rw [h, layout'.cutAuthority_hierarchy, Prod.mk.injEq] at hcut
  refine ⟨?_, hcut.2.symm⟩
  have hsome : layout.authority.isSome = true ↔ layout'.authority.isSome = true := by
    rw [isSome_authority_iff, isSome_authority_iff, h]
  have hwritten := hcut.1
  cases hauthority : layout.authority with
  | none =>
    cases hauthority' : layout'.authority with
    | none => rfl
    | some authority' =>
      rw [hauthority, hauthority'] at hsome
      exact absurd (hsome.mpr rfl) (by simp)
  | some authority =>
    cases hauthority' : layout'.authority with
    | none =>
      rw [hauthority, hauthority'] at hsome
      exact absurd (hsome.mp rfl) (by simp)
    | some authority' =>
      rw [hauthority, hauthority'] at hwritten
      have heq : authority'.written = authority.written := hwritten
      rw [Authority.written_inj heq]

/-! ## Whole layouts -/

/-- All that stands before the fragment is free of its delimiter. -/
theorem not_mem_front (layout : Layout) : '#' ∉ layout.hierarchy ++ marked '?' layout.query := by
  rw [List.mem_append, not_or]
  refine ⟨layout.not_mem_hierarchy (by decide), fun hmem => ?_⟩
  rcases mem_marked hmem with h | h
  · exact absurd h (by decide)
  · exact layout.query_free h

/-- **A layout is written in one way.** -/
theorem written_inj {layout layout' : Layout} (h : layout.written = layout'.written) :
    layout = layout' := by
  -- the fragment is cut off first, then the query, then the authority
  obtain ⟨hfront, hfragment⟩ := append_marked_inj layout.not_mem_front layout'.not_mem_front h
  obtain ⟨hhierarchy, hquery⟩ := append_marked_inj (layout.not_mem_hierarchy (by decide))
    (layout'.not_mem_hierarchy (by decide)) hfront
  obtain ⟨hauthority, hpath⟩ := hierarchy_inj hhierarchy
  cases layout
  cases layout'
  cases hauthority
  cases hpath
  cases hquery
  cases hfragment
  rfl

/-- So is the connection string as a whole: the scheme is the same in all of them. -/
theorem text_inj {layout layout' : Layout} (h : layout.text = layout'.text) :
    layout = layout' := by
  have hlist : dsnScheme.toList ++ ':' :: layout.written
      = dsnScheme.toList ++ ':' :: layout'.written := String.ofList_injective h
  exact written_inj (List.cons.inj (List.append_cancel_left hlist)).2

/-- Authority and path of a text without the delimiters that end them. -/
theorem exists_hierarchy {s : List Char} (h : ∀ c ∈ ['?', '#'], c ∉ s)
    (query fragment : Option (List Char)) (hquery : '#' ∉ query.getD []) :
    ∃ layout : Layout, layout.hierarchy = s ∧ layout.query = query ∧
      layout.fragment = fragment := by
  -- two slashes in front make an authority, which reaches to the next slash
  by_cases hslashes : ['/', '/'] <+: s
  · obtain ⟨r, rfl⟩ := hslashes
    obtain ⟨front, path?, rfl, hslash⟩ := exists_append_marked '/' r
    have hfront : ∀ c ∈ ['/', '?', '#'], c ∉ front := by
      intro c hc
      rcases List.mem_cons.mp hc with rfl | hc
      · exact hslash
      · exact fun hmem => h c hc (List.mem_append_right _ (List.mem_append_left _ hmem))
    have hpath : ∀ c ∈ ['?', '#'], c ∉ marked '/' path? :=
      fun c hc hmem => h c hc (List.mem_append_right _ (List.mem_append_right _ hmem))
    have hstart : marked '/' path? = [] ∨ (marked '/' path?).head? = some '/' := by
      cases path? with
      | none => exact Or.inl rfl
      | some path => exact Or.inr rfl
    obtain ⟨authority, hwritten⟩ := Authority.exists_written hfront
    refine ⟨⟨some authority, marked '/' path?, query, fragment, hstart, hpath, hquery⟩, ?_, rfl,
      rfl⟩
    show '/' :: '/' :: authority.written ++ marked '/' path? = _
    rw [hwritten]
    rfl
  · exact ⟨⟨none, s, query, fragment, hslashes, h, hquery⟩, rfl, rfl, rfl⟩

/-- **Every text is laid out.** -/
theorem exists_written (s : List Char) : ∃ layout : Layout, layout.written = s := by
  -- from the outside in: the fragment, then the query
  obtain ⟨front, fragment, rfl, hhash⟩ := exists_append_marked '#' s
  obtain ⟨hierarchy, query, rfl, hmark⟩ := exists_append_marked '?' front
  have hfree : ∀ c ∈ ['?', '#'], c ∉ hierarchy := by
    intro c hc
    rcases List.mem_cons.mp hc with rfl | hc
    · exact hmark
    · rw [List.mem_singleton.mp hc]
      exact fun hmem => hhash (List.mem_append_left _ hmem)
  have hquery : '#' ∉ query.getD [] :=
    fun hmem => hhash (List.mem_append_right _ (mem_marked_of_mem hmem))
  obtain ⟨layout, hhierarchy, hq, hf⟩ := exists_hierarchy hfree query fragment hquery
  refine ⟨layout, ?_⟩
  rw [written, hhierarchy, hq, hf]

/-- The slash that is dropped from a path is the one that the database does not contain. -/
theorem dropSlash_path (layout : Layout) : dropSlash layout.path = layout.database := by
  unfold dropSlash database
  split
  next r hpath =>
    rw [hpath]
    rfl
  next hstart =>
    rw [if_neg]
    intro hhead
    obtain ⟨r, hpath⟩ := List.head?_eq_some_iff.mp hhead
    exact hstart r hpath

/-- The raw parts that the pieces of a layout amount to. -/
def parts (layout : Layout) : Parts :=
  ⟨layout.user, layout.password, layout.hostList, layout.database, layout.query.getD []⟩

/-- **Cutting a written layout** gives its pieces back. -/
theorem cut_written (layout : Layout) : Parts.cut layout.written = layout.parts := by
  have hinfo : (Text.cutAtLast '@' ((layout.authority.map Authority.written).getD [])).getD
        ([], (layout.authority.map Authority.written).getD [])
      = ((layout.userInfo?.map UserInfo.written).getD [], layout.hostList) := by
    unfold userInfo? hostList
    cases layout.authority with
    | none => rfl
    | some authority =>
      show (Text.cutAtLast '@' authority.written).getD ([], authority.written)
        = ((authority.userInfo.map UserInfo.written).getD [], authority.hostList)
      rw [authority.cutAtLast_written]
      cases h : authority.userInfo with
      | none =>
        have hwritten : authority.written = authority.hostList := by
          unfold Authority.written
          rw [h]
        rw [hwritten]
        rfl
      | some info => rfl
  have huser : Text.cutOff ':' ((layout.userInfo?.map UserInfo.written).getD [])
      = (layout.user, layout.password) := by
    unfold user password
    cases layout.userInfo? with
    | none => rfl
    | some info => exact cutOff_append_marked (info.user_free ':' (by decide)) info.password
  -- fragment, query, authority, user information
  unfold Parts.cut
  simp only [written, cutOff_append_marked layout.not_mem_front,
    cutOff_append_marked (layout.not_mem_hierarchy (c := '?') (by decide)),
    layout.cutAuthority_hierarchy, hinfo, huser, dropSlash_path]
  rfl

/-- **Reading a layout.** What is left to do is to decode its pieces. -/
theorem parse_text (layout : Layout) : parse layout.text = layout.parts.decode := by
  rw [text, parse_scheme, cut_written]

end Layout

end SessionPlan.Dsn
