/-
Host lists, entry by entry.

A text of hosts is told here by its entries alone. One port specification is what they fall back on:
the one that was given, that of the environment, or the usual port. Its faults come first, among
them a list of ports that is not as long as the entries. After that every entry stands for itself.
What is before its first colon is a host, and what is behind it the port of that host, unless it is
empty; the first entry whose port is none is the fault.

Since entries stand for themselves, two texts with a comma between them are read as one text after
the other. A port that all hosts share goes to both, and a list of ports is cut where the first text
ends.
-/
import SessionPlan.Proofs.NamedHosts
import SessionPlan.Proofs.PortGrammar

set_option autoImplicit false

namespace SessionPlan

/-! ## The ports to fall back on -/

namespace PortSpec

/-- A specification suits a number of hosts: a port is shared by any number, a list is as long. -/
def Suits (hosts : Nat) : PortSpec → Prop
  | single _ => True
  | list ports => ports.length = hosts

/-- The ports that a specification holds for hosts, in their order. -/
def spread (hosts : Nat) : PortSpec → List UInt16
  | single port => List.replicate hosts port
  | list ports => ports

variable {spec : PortSpec} {hosts : Nat}

theorem forHosts_of_suits (h : spec.Suits hosts) :
    spec.forHosts hosts = .ok (spec.spread hosts) := by
  cases spec with
  | single port => rfl
  | list ports => exact forHosts_list h

theorem length_spread (h : spec.Suits hosts) : (spec.spread hosts).length = hosts :=
  length_of_forHosts (forHosts_of_suits h)

/-- The specification that counts: the given one if it names a port, that of the environment if
there is one, or the usual port. It fails when the text of the environment is malformed. -/
def byRank (given : Option PortSpec) (env : Environment) : Except ParameterError PortSpec :=
  (firstPresent [
    (given.bind nonEmpty?).map .ok,
    (env.nonEmpty? "EDGEDB_PORT").map fun text => read text "EDGEDB_PORT"]).getD
    (.ok (.single 5656))

theorem orOfEnvironment_eq_byRank (given : Option PortSpec) (env : Environment) :
    orOfEnvironment given env = byRank given env := by
  rw [orOfEnvironment, ofEnvironment, Environment.portVariable, byRank, firstPresent_cons,
    firstPresent_cons, firstPresent_nil, Option.or_none]
  cases given.bind nonEmpty? with
  | some spec => rfl
  | none =>
    cases env.nonEmpty? "EDGEDB_PORT" with
    | some text => rfl
    | none => rfl

end PortSpec

namespace HostList

/-! ## One entry -/

/-- The entries of a text of hosts. -/
def entries (text : String) : List (List Char) := text.toList.splitOn ','

/-- What stands behind the first colon of an entry; nothing if there is no colon. -/
def ownPort (entry : List Char) : List Char := (Text.cutOff ':' entry).2

/-- An entry that can be read: its own port is absent or empty, or it is one. -/
def Readable (entry : List Char) : Prop :=
  ownPort entry = [] ∨ ∃ port, SpellsPort (ownPort entry) port

/-- The port of an entry: its own, or where it has none the one to fall back on. -/
inductive TakesPort : List Char → UInt16 → UInt16 → Prop
  | fallback {entry : List Char} {port : UInt16} (absent : ownPort entry = []) :
      TakesPort entry port port
  | own {entry : List Char} {port own : UInt16} (present : ownPort entry ≠ [])
      (spells : SpellsPort (ownPort entry) own) : TakesPort entry port own

theorem readEntry_eq_ok_iff {entry : List Char} {port : UInt16} {pair : String × UInt16} :
    readEntry entry port = .ok pair ↔
      pair.1 = String.ofList (Text.cutOff ':' entry).1 ∧ TakesPort entry port pair.2 := by
  obtain ⟨host, own⟩ := pair
  -- the reader and the relation both ask first whether there is a port behind the colon
  by_cases habsent : ownPort entry = []
  · have hread : readEntry entry port = .ok (String.ofList (Text.cutOff ':' entry).1, port) :=
      if_pos habsent
    rw [hread, Except.ok.injEq, Prod.mk.injEq]
    constructor
    · rintro ⟨rfl, rfl⟩
      exact ⟨rfl, .fallback habsent⟩
    · rintro ⟨rfl, htakes⟩
      cases htakes with
      | fallback _ => exact ⟨rfl, rfl⟩
      | own present _ => exact absurd habsent present
  · have hread : readEntry entry port = (readPort (ownPort entry) sourceName).map fun own =>
        (String.ofList (Text.cutOff ':' entry).1, own) := if_neg habsent
    rw [hread, map_eq_ok_iff]
    constructor
    · rintro ⟨own', hown, hpair⟩
      cases hpair
      exact ⟨rfl, .own habsent (readPort_eq_ok_iff.mp hown)⟩
    · rintro ⟨rfl, htakes⟩
      cases htakes with
      | fallback absent => exact absurd absent habsent
      | own _ spells => exact ⟨own, readPort_eq_ok_iff.mpr spells, rfl⟩

/-- An entry can be read, whatever it falls back on, exactly when it takes some port. -/
theorem exists_readEntry_iff {entry : List Char} {port : UInt16} :
    (∃ pair, readEntry entry port = .ok pair) ↔ Readable entry := by
  simp only [readEntry_eq_ok_iff, Prod.exists]
  constructor
  · rintro ⟨host, own, -, htakes⟩
    cases htakes with
    | fallback absent => exact Or.inl absent
    | own _ spells => exact Or.inr ⟨own, spells⟩
  · intro h
    by_cases habsent : ownPort entry = []
    · exact ⟨_, port, rfl, .fallback habsent⟩
    · obtain ⟨own, hown⟩ := h.resolve_left habsent
      exact ⟨_, own, rfl, .own habsent hown⟩

theorem readEntry_eq_error_iff {entry : List Char} {port : UInt16} {e : ParameterError} :
    readEntry entry port = .error e ↔
      ¬ Readable entry ∧ e = .invalidPort (String.ofList (ownPort entry)) "host list" := by
  have hfault : ∀ e, readEntry entry port = .error e →
      e = .invalidPort (String.ofList (ownPort entry)) "host list" := by
    intro e h
    by_cases habsent : ownPort entry = []
    · rw [show readEntry entry port = .ok _ from if_pos habsent] at h
      cases h
    · rw [show readEntry entry port = (readPort (ownPort entry) sourceName).map _ from
        if_neg habsent] at h
      exact fault_of_readPort (map_eq_error_iff.mp h)
  rw [eq_error_iff_of_forall hfault, exists_readEntry_iff]

/-! ## All entries -/

section Entries

variable {entries entries' : List (List Char)} {ports ports' : List UInt16} {list : HostList}
  {e : ParameterError}

/-- **Every entry keeps its place.** -/
theorem readEntries_eq_ok_iff (hlen : ports.length = entries.length) :
    readEntries entries ports = .ok list ↔
      list.hosts = entries.map (fun entry => String.ofList (Text.cutOff ':' entry).1) ∧
      List.Forall₂ (fun e own => TakesPort e.1 e.2 own) (entries.zip ports) list.ports := by
  obtain ⟨hosts, owns⟩ := list
  -- entries, ports and results are gone through together
  induction entries generalizing ports hosts owns with
  | nil => simp [readEntries, eq_comm]
  | cons entry entries ih =>
    obtain ⟨port, ports, rfl⟩ := List.exists_cons_of_length_eq_add_one hlen
    have hrest := fun hosts owns => @ih ports (Nat.succ.inj hlen) hosts owns
    rw [readEntries, List.zip_cons_cons, List.map_cons, List.forall₂_cons_left_iff, bind_eq_ok_iff]
    constructor
    · rintro ⟨pair, hpair, h⟩
      obtain ⟨rest, hread, h⟩ := bind_eq_ok_iff.mp h
      cases h
      obtain ⟨hhost, htakes⟩ := readEntry_eq_ok_iff.mp hpair
      obtain ⟨hhosts, hports⟩ := (hrest rest.hosts rest.ports).mp hread
      exact ⟨congrArg₂ List.cons hhost hhosts, _, _, htakes, hports, rfl⟩
    · rintro ⟨rfl, own, owns, htakes, hports, rfl⟩
      refine ⟨(_, own), readEntry_eq_ok_iff.mpr ⟨rfl, htakes⟩, ?_⟩
      refine bind_eq_ok_iff.mpr ⟨⟨_, owns⟩, (hrest _ owns).mpr ⟨rfl, hports⟩, rfl⟩

/-- **The first entry that cannot be read** is the fault, told by its port. -/
theorem readEntries_eq_error_iff (hlen : ports.length = entries.length) :
    readEntries entries ports = .error e ↔
      ∃ before entry after, entries = before ++ entry :: after ∧ (∀ b ∈ before, Readable b) ∧
        ¬ Readable entry ∧ e = .invalidPort (String.ofList (ownPort entry)) "host list" := by
  have hfst : (entries.zip ports).map Prod.fst = entries :=
    List.map_fst_zip (Nat.le_of_eq hlen.symm)
  rw [readEntries_eq_mapM, map_eq_error_iff, mapM_eq_error_iff]
  simp only [exists_readEntry_iff, readEntry_eq_error_iff]
  constructor
  · rintro ⟨before, pair, after, hzip, hbefore, hbad, rfl⟩
    rw [hzip, List.map_append, List.map_cons] at hfst
    refine ⟨_, pair.1, _, hfst.symm, ?_, hbad, rfl⟩
    intro b hb
    obtain ⟨p, hp, rfl⟩ := List.mem_map.mp hb
    exact hbefore p hp
  · rintro ⟨before, entry, after, hentries, hbefore, hbad, rfl⟩
    -- the pairs of entries and ports are cut where the entries are
    rw [hentries] at hfst
    obtain ⟨front, back, hzip, rfl, hback⟩ := List.map_eq_append_iff.mp hfst
    obtain ⟨pair, behind, rfl, rfl, -⟩ := List.map_eq_cons_iff.mp hback
    rw [hentries, hzip]
    exact ⟨front, pair, behind, rfl, fun p hp => hbefore _ (List.mem_map_of_mem hp), hbad, rfl⟩

/-- All entries are read when each can be read. -/
theorem exists_readEntries_iff (hlen : ports.length = entries.length) :
    (∃ list, readEntries entries ports = .ok list) ↔ ∀ entry ∈ entries, Readable entry := by
  have hfst : (entries.zip ports).map Prod.fst = entries :=
    List.map_fst_zip (Nat.le_of_eq hlen.symm)
  rw [readEntries_eq_mapM, exists_map_eq_ok_iff, exists_mapM_eq_ok_iff]
  simp only [exists_readEntry_iff]
  rw [← List.forall_mem_map, hfst]

end Entries

/-- What comes of a text of hosts whose entries fall back on a specification: a fault of the counts,
the fault of the first entry that cannot be read, or a host and a port for each entry. -/
inductive Reading (text : String) : PortSpec → Except ParameterError HostList → Prop
  | counts {ports : List UInt16} (ne : ports.length ≠ (entries text).length) :
      Reading text (.list ports) (.error (.portCountMismatch ports.length (entries text).length))
  | entry {base : PortSpec} {before after : List (List Char)} {entry : List Char}
      (suits : base.Suits (entries text).length) (split : entries text = before ++ entry :: after)
      (first : ∀ b ∈ before, Readable b) (bad : ¬ Readable entry) :
      Reading text base (.error (.invalidPort (String.ofList (ownPort entry)) "host list"))
  | list {base : PortSpec} {ports : List UInt16} (suits : base.Suits (entries text).length)
      (each : List.Forall₂ (fun e own => TakesPort e.1 e.2 own)
        ((entries text).zip (base.spread (entries text).length)) ports) :
      Reading text base (.ok ⟨names text, ports⟩)

section Texts

variable {text : String} {base : PortSpec} {list : HostList}
  {result : Except ParameterError HostList}

theorem split_of_suits (h : base.Suits (entries text).length) :
    split text base = readEntries (entries text) (base.spread (entries text).length) := by
  rw [split_eq_readEntries, names, ← entries, List.length_map, PortSpec.forHosts_of_suits h,
    ok_bind]

theorem split_of_not_suits {ports : List UInt16} (h : ports.length ≠ (entries text).length) :
    split text (.list ports)
      = .error (.portCountMismatch ports.length (entries text).length) := by
  rw [split_eq_readEntries, names, ← entries, List.length_map, PortSpec.forHosts, if_neg h,
    error_bind]

/-- **A text of hosts by its entries.** -/
theorem split_eq_iff_reading : split text base = result ↔ Reading text base result := by
  constructor
  · rintro rfl
    by_cases hsuits : base.Suits (entries text).length
    · have hlen := PortSpec.length_spread hsuits
      rw [split_of_suits hsuits]
      cases h : readEntries (entries text) (base.spread (entries text).length) with
      | error e =>
        obtain ⟨before, entry, after, hsplit, hfirst, hbad, rfl⟩ :=
          (readEntries_eq_error_iff hlen).mp h
        exact .entry hsuits hsplit hfirst hbad
      | ok list =>
        obtain ⟨hhosts, hports⟩ := (readEntries_eq_ok_iff hlen).mp h
        obtain ⟨hosts, ports⟩ := list
        obtain rfl : hosts = names text := hhosts
        exact .list hsuits hports
    · -- a port that is shared suits any number of entries
      cases base with
      | single port => exact absurd trivial hsuits
      | list ports =>
        rw [split_of_not_suits hsuits]
        exact .counts hsuits
  · intro h
    cases h with
    | counts ne => exact split_of_not_suits ne
    | entry suits hsplit first bad =>
      rw [split_of_suits suits]
      exact (readEntries_eq_error_iff (PortSpec.length_spread suits)).mpr
        ⟨_, _, _, hsplit, first, bad, rfl⟩
    | list suits each =>
      rw [split_of_suits suits]
      exact (readEntries_eq_ok_iff (PortSpec.length_spread suits)).mpr ⟨rfl, each⟩

/-- A host and a port for each entry. -/
theorem Reading.length (h : Reading text base (.ok list)) :
    list.hosts.length = (entries text).length ∧ list.ports.length = (entries text).length := by
  cases h with
  | list suits each =>
    refine ⟨List.length_map _, ?_⟩
    rw [← each.length_eq, List.length_zip, PortSpec.length_spread suits, Nat.min_self]

/-- Where the counts match, a text is read exactly when every entry can be read. -/
theorem exists_reading_iff (hsuits : base.Suits (entries text).length) :
    (∃ list, Reading text base (.ok list)) ↔ ∀ entry ∈ entries text, Readable entry := by
  simp only [← split_eq_iff_reading, split_of_suits hsuits]
  exact exists_readEntries_iff (PortSpec.length_spread hsuits)

end Texts

/-! ## Two texts -/

instance : Append HostList where
  append left right := ⟨left.hosts ++ right.hosts, left.ports ++ right.ports⟩

section Join

variable {left right : String}

/-- The entries of two texts with a comma between them. -/
theorem entries_join (left right : String) :
    entries (left ++ "," ++ right) = entries left ++ entries right := by
  have hlist : (left ++ "," ++ right).toList = left.toList ++ ',' :: right.toList := by
    rw [String.toList_append, String.toList_append, List.append_assoc]
    rfl
  rw [entries, hlist, List.splitOn_append_cons_self]
  rfl

/-- Entries are read one after the other, so they may be read in two parts. -/
theorem readEntries_append {entries entries' : List (List Char)} {ports : List UInt16}
    (hlen : ports.length = entries.length) (ports' : List UInt16) :
    readEntries (entries ++ entries') (ports ++ ports') = (do
      let list ← readEntries entries ports
      let list' ← readEntries entries' ports'
      pure (list ++ list')) := by
  induction entries generalizing ports with
  | nil =>
    obtain rfl := List.length_eq_zero_iff.mp hlen
    cases h : readEntries entries' ports' with
    | error e => exact h
    | ok list => exact h
  | cons entry entries ih =>
    obtain ⟨port, ports, rfl⟩ := List.exists_cons_of_length_eq_add_one hlen
    rw [List.cons_append, List.cons_append, readEntries, readEntries, ih (Nat.succ.inj hlen)]
    cases readEntry entry port with
    | error e => rfl
    | ok pair =>
      cases readEntries entries ports with
      | error e => rfl
      | ok list =>
        cases readEntries entries' ports' with
        | error e => rfl
        | ok list' => rfl

theorem split_join {base leftBase rightBase : PortSpec}
    (hsuits : base.Suits ((entries left).length + (entries right).length))
    (hleft : leftBase.Suits (entries left).length)
    (hright : rightBase.Suits (entries right).length)
    (hspread : base.spread ((entries left).length + (entries right).length)
      = leftBase.spread (entries left).length ++ rightBase.spread (entries right).length) :
    split (left ++ "," ++ right) base = (do
      let list ← split left leftBase
      let list' ← split right rightBase
      pure (list ++ list')) := by
  have hlen : (entries (left ++ "," ++ right)).length
      = (entries left).length + (entries right).length := by
    rw [entries_join, List.length_append]
  rw [← hlen] at hsuits hspread
  -- all three counts match, so nothing but entries is left to read on either side
  rw [split_of_suits hsuits, split_of_suits hleft, split_of_suits hright, hspread, entries_join,
    readEntries_append (PortSpec.length_spread hleft)]

variable {port : Option PortSpec} {env : Environment}

theorem read_of_byRank {base : PortSpec} (h : PortSpec.byRank port env = .ok base)
    (text : String) : read text port env = split text base := by
  rw [read_eq_split, PortSpec.orOfEnvironment_eq_byRank, h, ok_bind]

/-- A shared port is shared by the entries of both texts. -/
theorem read_join_of_single {shared : UInt16}
    (h : PortSpec.byRank port env = .ok (.single shared)) :
    read (left ++ "," ++ right) port env = (do
      let list ← read left port env
      let list' ← read right port env
      pure (list ++ list')) := by
  simp only [read_of_byRank h]
  exact split_join trivial trivial trivial List.replicate_append_replicate.symm

/-- A list of ports, one for each entry, is cut between the two texts. -/
theorem read_join_of_list {ports : List UInt16}
    (h : PortSpec.byRank port env = .ok (.list ports))
    (hlen : ports.length = (entries left).length + (entries right).length) :
    read (left ++ "," ++ right) port env = (do
      let list ← read left (some (.list (ports.take (entries left).length))) env
      let list' ← read right (some (.list (ports.drop (entries left).length))) env
      pure (list ++ list')) := by
  have hpart : ∀ {text : String} {part : List UInt16}, part.length = (entries text).length →
      read text (some (.list part)) env = split text (.list part) := by
    intro text part hpart
    -- a text has an entry, so neither part is empty, and the environment is not asked
    have hpos : 0 < (entries text).length :=
      List.length_pos_iff.mpr (List.splitOn_ne_nil ',' text.toList)
    have hne : (PortSpec.list part).isEmpty = false := by
      rw [← hpart] at hpos
      exact List.isEmpty_eq_false_iff.mpr (List.length_pos_iff.mp hpos)
    rw [read_eq_split, PortSpec.orOfEnvironment_of_isEmpty hne, ok_bind]
  have hleft : (ports.take (entries left).length).length = (entries left).length := by
    rw [List.length_take]
    omega
  have hright : (ports.drop (entries left).length).length = (entries right).length := by
    rw [List.length_drop]
    omega
  rw [read_of_byRank h, hpart hleft, hpart hright]
  exact split_join hlen hleft hright (List.take_append_drop _ _).symm

end Join

/-- **Host lists by their entries.** The ports to fall back on come first: where they cannot be
read, their fault is that of every text. Where they can, a text comes to what its entries come to;
if the counts match, it is read exactly when every entry can be read, and then has as many hosts and
ports as entries. Two texts with a comma between them are read one after the other, each with its
part of the ports, so that the faults of the first come first. -/
theorem host_list_by_entries (port : Option PortSpec) (env : Environment) :
    (∀ e, PortSpec.byRank port env = .error e → ∀ text, read text port env = .error e) ∧
    (∀ base, PortSpec.byRank port env = .ok base → ∀ text,
      (∀ result, read text port env = result ↔ Reading text base result) ∧
      (base.Suits (entries text).length →
        ((∃ list, read text port env = .ok list) ↔ ∀ entry ∈ entries text, Readable entry)) ∧
      ∀ list, read text port env = .ok list →
        list.hosts.length = (entries text).length ∧ list.ports.length = (entries text).length) ∧
    (∀ shared, PortSpec.byRank port env = .ok (.single shared) → ∀ left right,
      read (left ++ "," ++ right) port env = (do
        let list ← read left port env
        let list' ← read right port env
        pure (list ++ list'))) ∧
    ∀ ports, PortSpec.byRank port env = .ok (.list ports) → ∀ left right,
      read (left ++ "," ++ right) port env =
        if ports.length = (entries left).length + (entries right).length then (do
          let list ← read left (some (.list (ports.take (entries left).length))) env
          let list' ← read right (some (.list (ports.drop (entries left).length))) env
          pure (list ++ list'))
        else .error (.portCountMismatch ports.length
          ((entries left).length + (entries right).length)) := by
  refine ⟨?_, ?_, ?_, ?_⟩
  · intro e h text
    rw [read_eq_split, PortSpec.orOfEnvironment_eq_byRank, h, error_bind]
  · intro base h text
    have hread : ∀ result, read text port env = result ↔ Reading text base result := by
      intro result
      rw [read_of_byRank h, split_eq_iff_reading]
    refine ⟨hread, ?_, ?_⟩
    · intro hsuits
      simp only [hread]
      exact exists_reading_iff hsuits
    · intro list hlist
      exact ((hread _).mp hlist).length
  · intro shared h left right
    exact read_join_of_single h
  · intro ports h left right
    by_cases hlen : ports.length = (entries left).length + (entries right).length
    · rw [if_pos hlen, read_join_of_list h hlen]
    · have hjoin : ports.length ≠ (entries (left ++ "," ++ right)).length := by
        rwa [entries_join, List.length_append]
      rw [if_neg hlen, read_of_byRank h, split_of_not_suits hjoin, entries_join,
        List.length_append]

/-- Three entries that fall back on a list of the environment, read together and in two parts; and
two entries, for which that list is too long. -/
theorem host_list_by_entries_of_list :
    let env : Environment :=
      ⟨fun name => if name = "EDGEDB_PORT" then some "7,8,9" else none, none, .unix⟩
    PortSpec.byRank none env = .ok (.list [7, 8, 9]) ∧
      read ("a:1,b" ++ "," ++ "c:") none env = .ok ⟨["a", "b", "c"], [1, 8, 9]⟩ ∧
      read "a,b:x" none env = .error (.portCountMismatch 3 2) := by
  intro env
  have hbase : PortSpec.byRank none env = .ok (.list [7, 8, 9]) := by rfl
  obtain ⟨-, hentries, -, hjoin⟩ := host_list_by_entries none env
  refine ⟨hbase, ?_, ?_⟩
  · rw [hjoin _ hbase "a:1,b" "c:"]
    rfl
  · refine ((hentries _ hbase "a,b:x").1 _).mpr (.counts ?_)
    decide

end HostList

end SessionPlan
