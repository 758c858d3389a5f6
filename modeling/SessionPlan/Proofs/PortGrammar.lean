/-
Port texts by their grammar.

A port is spelled by decimal digits, perhaps behind a plus sign, with white space around them. The
digits may begin with any number of zeros, so it is their value that is bounded and not their count.
A text of ports is cut at its commas, and the first piece that spells no port is the fault.

Two readers go by this grammar. They take the same texts and report the same faults, and differ in
one thing only: a text without a comma is a list of one port to the first, and a port that all hosts
share to the second. What is written as a list of ports is read back by both.
-/
import SessionPlan.Proofs.HostList
import SessionPlan.Proofs.PortText

set_option autoImplicit false

namespace SessionPlan

/-! ## White space around a text -/

namespace Text

/-- Trimming takes nothing but white space off the two ends. -/
theorem exists_append_trim (s : List Char) :
    ∃ before after, (∀ c ∈ before, isBlank c = true) ∧ (∀ c ∈ after, isBlank c = true) ∧
      s = before ++ trim s ++ after := by
  have hblank : ∀ l : List Char, ∀ c ∈ l.takeWhile isBlank, isBlank c = true :=
    fun _ => List.all_eq_true.mp List.all_takeWhile
  refine ⟨s.takeWhile isBlank, ((s.dropWhile isBlank).reverse.takeWhile isBlank).reverse,
    hblank s, ?_, ?_⟩
  · intro c hc
    exact hblank _ c (List.mem_reverse.mp hc)
  · rw [trim, List.append_assoc, ← List.reverse_append, List.takeWhile_append_dropWhile,
      List.reverse_reverse, List.takeWhile_append_dropWhile]

/-- White space around a text that holds none is trimmed off. -/
theorem trim_append {before s after : List Char} (hbefore : ∀ c ∈ before, isBlank c = true)
    (hafter : ∀ c ∈ after, isBlank c = true) (hne : s ≠ [])
    (hs : ∀ c ∈ s, isBlank c = false) : trim (before ++ s ++ after) = s := by
  have hstop : ∀ t rest : List Char, t ≠ [] → (∀ c ∈ t, isBlank c = false) →
      (t ++ rest).dropWhile isBlank = t ++ rest := by
    intro t rest ht hfree
    obtain ⟨c, t, rfl⟩ := List.exists_cons_of_ne_nil ht
    rw [List.cons_append, List.dropWhile_cons_of_neg]
    rw [hfree c List.mem_cons_self]
    exact Bool.false_ne_true
  -- the front is trimmed first, and the back as the front of the reversed text
  have hfront : (before ++ s ++ after).dropWhile isBlank = s ++ after := by
    rw [List.append_assoc, List.dropWhile_append_of_pos hbefore, hstop s after hne hs]
  have hback : (s ++ after).reverse.dropWhile isBlank = s.reverse := by
    have hreversed := hstop s.reverse [] (by simpa using hne) (by simpa using hs)
    rw [List.append_nil] at hreversed
    rw [List.reverse_append, List.dropWhile_append_of_pos (by simpa using hafter), hreversed]
  rw [trim, hfront, hback, List.reverse_reverse]

end Text

/-! ## Single ports -/

/-- A text spells a port: digits of its value, a plus sign in front of them or not, and white space
around them. -/
inductive SpellsPort : List Char → UInt16 → Prop
  | spelled {before sign digits after : List Char} {port : UInt16}
      (before_blank : ∀ c ∈ before, Text.isBlank c = true)
      (after_blank : ∀ c ∈ after, Text.isBlank c = true)
      (sign_plus : sign = [] ∨ sign = ['+'])
      (digits_ne : digits ≠ [])
      (digits_decimal : ∀ c ∈ digits, c.isDigit = true)
      (value : Nat.ofDigitChars 10 digits 0 = port.toNat) :
      SpellsPort (before ++ (sign ++ digits) ++ after) port

theorem portNumber?_eq_some_iff {digits : List Char} {port : UInt16} :
    portOfDigits?.portNumber? digits = some port ↔ digits ≠ [] ∧
      (∀ c ∈ digits, c.isDigit = true) ∧ Nat.ofDigitChars 10 digits 0 = port.toNat := by
  rw [portOfDigits?.portNumber?, Option.ite_none_right_eq_some, Option.some.injEq,
    List.all_eq_true]
  constructor
  · rintro ⟨⟨hne, hdigits, hbound⟩, rfl⟩
    refine ⟨hne, hdigits, ?_⟩
    rw [UInt16.toNat_ofNat']
    omega
  · rintro ⟨hne, hdigits, hvalue⟩
    have hbound : port.toNat < 2 ^ 16 := port.toNat_lt
    rw [hvalue, UInt16.ofNat_toNat]
    exact ⟨⟨hne, hdigits, by omega⟩, rfl⟩

theorem portOfDigits?_eq_some_iff {s : List Char} {port : UInt16} :
    portOfDigits? s = some port ↔ ∃ sign digits, s = sign ++ digits ∧
      (sign = [] ∨ sign = ['+']) ∧ portOfDigits?.portNumber? digits = some port := by
  unfold portOfDigits?
  split
  next r =>
    constructor
    · intro h
      exact ⟨['+'], r, rfl, Or.inr rfl, h⟩
    · rintro ⟨sign, digits, hs, rfl | rfl, h⟩
      · -- a plus sign is no digit, so it is not the first one
        have hplus : '+' ∈ digits := by
          rw [← List.nil_append digits, ← hs]
          exact List.mem_cons_self
        exact absurd ((portNumber?_eq_some_iff.mp h).2.1 '+' hplus) (by decide)
      · obtain rfl : r = digits := (List.cons.inj hs).2
        exact h
  next hplain =>
    constructor
    · intro h
      exact ⟨[], s, rfl, Or.inl rfl, h⟩
    · rintro ⟨sign, digits, rfl, rfl | rfl, h⟩
      · exact h
      · exact absurd rfl (hplain digits)

/-- **One port.** What is read of a text is the port that it spells. -/
theorem readPort_eq_ok_iff {text : List Char} {source : String} {port : UInt16} :
    readPort text source = .ok port ↔ SpellsPort text port := by
  have hread : readPort text source = .ok port ↔ portOfDigits? (Text.trim text) = some port := by
    rw [readPort]
    cases portOfDigits? (Text.trim text) with
    | none => simp
    | some p => simp
  rw [hread]
  constructor
  · -- what trimming took off stands around what was read
    intro h
    obtain ⟨sign, digits, htrim, hsign, hnumber⟩ := portOfDigits?_eq_some_iff.mp h
    obtain ⟨hne, hdigits, hvalue⟩ := portNumber?_eq_some_iff.mp hnumber
    obtain ⟨before, after, hbefore, hafter, htext⟩ := Text.exists_append_trim text
    rw [htext, htrim]
    exact .spelled hbefore hafter hsign hne hdigits hvalue
  · -- neither a sign nor a digit is white space, so exactly the white space is trimmed off
    rintro ⟨hbefore, hafter, hsign, hne, hdigits, hvalue⟩
    rename_i before sign digits after
    have hfree : ∀ c ∈ sign ++ digits, Text.isBlank c = false := by
      intro c hc
      rcases List.mem_append.mp hc with hc | hc
      · have hplus : c = '+' := by
          rcases hsign with rfl | rfl
          · exact absurd hc List.not_mem_nil
          · exact List.mem_singleton.mp hc
        rw [hplus]
        decide
      · exact Text.isBlank_of_isDigit (hdigits c hc)
    have hne' : sign ++ digits ≠ [] := List.append_ne_nil_of_right_ne_nil sign hne
    rw [Text.trim_append hbefore hafter hne' hfree]
    exact portOfDigits?_eq_some_iff.mpr
      ⟨sign, digits, rfl, hsign, portNumber?_eq_some_iff.mpr ⟨hne, hdigits, hvalue⟩⟩

/-- A text that spells no port is the fault, as it was given. -/
theorem readPort_eq_error_iff {text : List Char} {source : String} {e : ParameterError} :
    readPort text source = .error e ↔
      (¬ ∃ port, SpellsPort text port) ∧ e = .invalidPort (String.ofList text) source := by
  rw [eq_error_iff_of_forall fun _ h => fault_of_readPort h]
  simp only [readPort_eq_ok_iff]

/-! ## Lists of ports -/

namespace PortSpec

variable {text source : String} {spec : PortSpec} {e : ParameterError}

/-- The pieces of a text between its commas. -/
def pieces (text : String) : List (List Char) := text.toList.splitOn ','

theorem readList_eq_ok_iff :
    readList text source = .ok spec ↔
      ∃ ports, spec = .list ports ∧ List.Forall₂ SpellsPort (pieces text) ports := by
  rw [readList, map_eq_ok_iff]
  simp only [mapM_eq_ok_iff, readPort_eq_ok_iff]
  constructor
  · rintro ⟨ports, hports, rfl⟩
    exact ⟨ports, rfl, hports⟩
  · rintro ⟨ports, rfl, hports⟩
    exact ⟨ports, hports, rfl⟩

/-- The first piece that spells no port decides. -/
theorem readList_eq_error_iff :
    readList text source = .error e ↔
      ∃ before piece after, pieces text = before ++ piece :: after ∧
        (∀ p ∈ before, ∃ port, SpellsPort p port) ∧ (¬ ∃ port, SpellsPort piece port) ∧
        e = .invalidPort (String.ofList piece) source := by
  rw [readList, map_eq_error_iff, mapM_eq_error_iff]
  simp only [readPort_eq_ok_iff, readPort_eq_error_iff, pieces]

/-- A list is read exactly when every piece spells a port. -/
theorem exists_readList_iff :
    (∃ spec, readList text source = .ok spec) ↔
      ∀ piece ∈ pieces text, ∃ port, SpellsPort piece port := by
  rw [readList, exists_map_eq_ok_iff, exists_mapM_eq_ok_iff, pieces]
  simp only [readPort_eq_ok_iff]

/-! ## The two readers -/

/-- The specification of the ports in a text: a port alone is shared. -/
def ofPorts : List UInt16 → PortSpec
  | [port] => .single port
  | ports => .list ports

theorem ofPorts_of_length_ne_one {ports : List UInt16} (h : ports.length ≠ 1) :
    ofPorts ports = .list ports := by
  unfold ofPorts
  split
  next port => exact absurd rfl h
  next => rfl

theorem ofPorts_eq_single_iff {ports : List UInt16} {port : UInt16} :
    ofPorts ports = .single port ↔ ports = [port] := by
  by_cases hlen : ports.length = 1
  · obtain ⟨p, rfl⟩ := List.length_eq_one_iff.mp hlen
    simp [ofPorts]
  · rw [ofPorts_of_length_ne_one hlen]
    constructor
    · intro h
      cases h
    · rintro rfl
      exact absurd rfl hlen

theorem ofPorts_eq_list_iff {ports ports' : List UInt16} :
    ofPorts ports = .list ports' ↔ ports = ports' ∧ ports.length ≠ 1 := by
  by_cases hlen : ports.length = 1
  · obtain ⟨p, rfl⟩ := List.length_eq_one_iff.mp hlen
    simp [ofPorts]
  · rw [ofPorts_of_length_ne_one hlen, list.injEq]
    simp [hlen]

/-- A comma makes more than one piece. -/
theorem length_pieces_of_comma (h : ',' ∈ text.toList) : 2 ≤ (pieces text).length := by
  obtain ⟨before, after, htext⟩ := List.append_of_mem h
  have hbefore := List.length_pos_iff.mpr (List.splitOn_ne_nil ',' before)
  have hafter := List.length_pos_iff.mpr (List.splitOn_ne_nil ',' after)
  rw [pieces, htext, List.splitOn_append_cons_self, List.length_append]
  omega

theorem pieces_of_no_comma (h : ',' ∉ text.toList) : pieces text = [text.toList] :=
  List.splitOn_eq_singleton h

/-- **One pass, two readers.** Both read the pieces one by one; the second shares a port that is
alone. -/
theorem read_eq_map_ofPorts (text source : String) :
    read text source = ((pieces text).mapM (readPort · source)).map ofPorts := by
  rw [read]
  by_cases hcomma : ',' ∈ text.toList
  · -- two pieces or more, so no port is alone
    rw [if_pos hcomma, readList, ← pieces]
    cases h : (pieces text).mapM (readPort · source) with
    | error e => rfl
    | ok ports =>
      have hlen := length_of_mapM h
      have htwo := length_pieces_of_comma hcomma
      rw [map_ok, map_ok, ofPorts_of_length_ne_one (by omega)]
  · rw [if_neg hcomma, pieces_of_no_comma hcomma, List.mapM_cons, List.mapM_nil]
    cases readPort text.toList source with
    | error e => rfl
    | ok port => rfl

theorem read_eq_error_iff_readList :
    read text source = .error e ↔ readList text source = .error e := by
  rw [read_eq_map_ofPorts, readList, map_eq_error_iff, map_eq_error_iff, pieces]

theorem read_eq_ok_iff_readList :
    read text source = .ok spec ↔
      ∃ ports, readList text source = .ok (.list ports) ∧ spec = ofPorts ports := by
  rw [read_eq_map_ofPorts, readList, map_eq_ok_iff]
  simp only [map_eq_ok_iff, list.injEq, exists_eq_right, pieces, eq_comm (a := spec)]

/-- A port alone comes from a text without a comma. -/
theorem length_ports_eq_one_iff {ports : List UInt16}
    (h : readList text source = .ok (.list ports)) : ports.length = 1 ↔ ',' ∉ text.toList := by
  obtain ⟨ports', heq, hports⟩ := readList_eq_ok_iff.mp h
  obtain rfl := list.inj heq
  rw [← hports.length_eq]
  constructor
  · intro hone hcomma
    have htwo := length_pieces_of_comma hcomma
    omega
  · intro hcomma
    rw [pieces_of_no_comma hcomma, List.length_singleton]

end PortSpec

/-! ## Ports in writing -/

/-- A port in decimal digits, with white space around them. -/
structure PaddedPort where
  before : List Char
  port : UInt16
  after : List Char
  before_blank : ∀ c ∈ before, Text.isBlank c = true
  after_blank : ∀ c ∈ after, Text.isBlank c = true

namespace PaddedPort

/-- The port as it is written. -/
def written (padded : PaddedPort) : List Char :=
  padded.before ++ Target.portDigits padded.port ++ padded.after

/-- Ports with commas between them. -/
def join (padded : List PaddedPort) : String :=
  String.ofList ([','].intercalate (padded.map written))

theorem spellsPort (padded : PaddedPort) : SpellsPort padded.written padded.port := by
  have hvalue : Nat.ofDigitChars 10 (Target.portDigits padded.port) 0 = padded.port.toNat :=
    Nat.ofDigitChars_toDigits (by decide) (by decide)
  have hdigits : ∀ c ∈ Target.portDigits padded.port, c.isDigit = true :=
    fun _ hc => Target.isDigit_of_mem_portDigits hc
  have hunsigned : SpellsPort
      (padded.before ++ ([] ++ Target.portDigits padded.port) ++ padded.after) padded.port :=
    .spelled padded.before_blank padded.after_blank (Or.inl rfl)
      (Target.portDigits_ne_nil padded.port) hdigits hvalue
  rwa [List.nil_append] at hunsigned

theorem comma_not_mem_written (padded : PaddedPort) : ',' ∉ padded.written := by
  have hblank : ∀ s : List Char, (∀ c ∈ s, Text.isBlank c = true) → ',' ∉ s := by
    intro s hs hmem
    exact absurd (hs ',' hmem) (by decide)
  rw [written, List.mem_append, List.mem_append, not_or, not_or]
  exact ⟨⟨hblank _ padded.before_blank, Target.not_mem_portDigits (by decide) padded.port⟩,
    hblank _ padded.after_blank⟩

theorem pieces_join {padded : List PaddedPort} (hne : padded ≠ []) :
    PortSpec.pieces (join padded) = padded.map written := by
  rw [PortSpec.pieces, join, String.toList_ofList]
  apply List.splitOn_intercalate ','
  · intro piece hpiece
    obtain ⟨p, -, rfl⟩ := List.mem_map.mp hpiece
    exact p.comma_not_mem_written
  · simpa using hne

/-- **What is written is read back**, each port in its place. -/
theorem readList_join {padded : List PaddedPort} (hne : padded ≠ []) (source : String) :
    PortSpec.readList (join padded) source = .ok (.list (padded.map (·.port))) := by
  refine PortSpec.readList_eq_ok_iff.mpr ⟨_, rfl, ?_⟩
  rw [pieces_join hne, List.forall₂_map_left_iff, List.forall₂_map_right_iff, List.forall₂_same]
  exact fun p _ => p.spellsPort

end PaddedPort

/-- **Port texts.** A list is read exactly when every piece between the commas spells a port, and
then it holds these ports in order; otherwise the first piece that spells none is the fault, as it
stands there. The other reader fails on the same texts with the same fault. A text without a comma
is one port to it, which all hosts share, and a text with commas is the same list. Both read back
any ports that are written with commas between them and white space around them. -/
theorem port_texts_by_grammar (text source : String) :
    (∀ spec, PortSpec.readList text source = .ok spec ↔
      ∃ ports, spec = .list ports ∧ List.Forall₂ SpellsPort (text.toList.splitOn ',') ports) ∧
    ((∃ spec, PortSpec.readList text source = .ok spec) ↔
      ∀ piece ∈ text.toList.splitOn ',', ∃ port, SpellsPort piece port) ∧
    (∀ e, PortSpec.readList text source = .error e ↔
      ∃ before piece after, text.toList.splitOn ',' = before ++ piece :: after ∧
        (∀ p ∈ before, ∃ port, SpellsPort p port) ∧ (¬ ∃ port, SpellsPort piece port) ∧
        e = .invalidPort (String.ofList piece) source) ∧
    (∀ e, PortSpec.read text source = .error e ↔ PortSpec.readList text source = .error e) ∧
    (∀ port, PortSpec.read text source = .ok (.single port) ↔
      ',' ∉ text.toList ∧ PortSpec.readList text source = .ok (.list [port])) ∧
    (∀ ports, PortSpec.read text source = .ok (.list ports) ↔
      ',' ∈ text.toList ∧ PortSpec.readList text source = .ok (.list ports)) ∧
    ∀ padded : List PaddedPort, padded ≠ [] →
      PortSpec.readList (PaddedPort.join padded) source = .ok (.list (padded.map (·.port))) ∧
      PortSpec.read (PaddedPort.join padded) source
        = .ok (PortSpec.ofPorts (padded.map (·.port))) := by
  refine ⟨fun spec => PortSpec.readList_eq_ok_iff, PortSpec.exists_readList_iff,
    fun e => PortSpec.readList_eq_error_iff, fun e => PortSpec.read_eq_error_iff_readList, ?_, ?_,
    ?_⟩
  · intro port
    simp only [PortSpec.read_eq_ok_iff_readList, eq_comm (a := PortSpec.single port),
      PortSpec.ofPorts_eq_single_iff, exists_eq_right]
    constructor
    · intro h
      exact ⟨(PortSpec.length_ports_eq_one_iff h).mp rfl, h⟩
    · exact fun h => h.2
  · intro ports
    simp only [PortSpec.read_eq_ok_iff_readList, eq_comm (a := PortSpec.list ports),
      PortSpec.ofPorts_eq_list_iff]
    constructor
    · rintro ⟨ports, h, rfl, hlen⟩
      exact ⟨not_not.mp fun hcomma => hlen ((PortSpec.length_ports_eq_one_iff h).mpr hcomma), h⟩
    · rintro ⟨hcomma, h⟩
      exact ⟨ports, h, rfl, fun hlen => (PortSpec.length_ports_eq_one_iff h).mp hlen hcomma⟩
  · intro padded hne
    have hlist := PaddedPort.readList_join hne source
    exact ⟨hlist, PortSpec.read_eq_ok_iff_readList.mpr ⟨_, hlist, rfl⟩⟩

/-- Two ports with white space around them, and a text whose second piece is too large a number. -/
theorem port_texts_by_grammar_of_padded :
    let padded : List PaddedPort :=
      [⟨[' '], 7, [], by simpa using by decide, by simp⟩,
        ⟨[], 65535, ['\u2003'], by simp, by simpa using by decide⟩]
    PaddedPort.join padded = " 7,65535\u2003" ∧
      PortSpec.read " 7,65535\u2003" "list" = .ok (.list [7, 65535]) ∧
      PortSpec.readList "+080, 65536,x" "list" = .error (.invalidPort " 65536" "list") ∧
      PortSpec.read "+080, 65536,x" "list" = .error (.invalidPort " 65536" "list") := by
  intro padded
  have hjoin : PaddedPort.join padded = " 7,65535\u2003" := by decide +kernel
  have hpadded := (port_texts_by_grammar " 7" "list").2.2.2.2.2.2 padded (by simp [padded])
  rw [hjoin] at hpadded
  have hlist : PortSpec.readList "+080, 65536,x" "list"
      = .error (.invalidPort " 65536" "list") := by
    decide +kernel
  have hread := ((port_texts_by_grammar "+080, 65536,x" "list").2.2.2.1 _).mpr hlist
  exact ⟨hjoin, hpadded.2, hlist, hread⟩

end SessionPlan
