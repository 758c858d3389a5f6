/-
Every table of a document has distinct keys.

A document names the entries of a table piecemeal, and no piece may name a key that is there. So all
tables under construction have distinct keys, on every level. Each change of them is an edit at the
end of a path. An edit that keeps the keys of its own table distinct keeps those of all tables so,
since on the way to it no key is added but one that was not found. What is finished is as distinct
as what it was made of.
-/
import SessionPlan.Proofs.TextMap
import SessionPlan.Toml.Document

set_option autoImplicit false

namespace SessionPlan.Toml

open TextMap (KeysDistinct)

/-- All tables in a value have distinct keys. -/
inductive Value.Distinct : Value → Prop
  | string (text : String) : Distinct (.string text)
  | integer (n : Int) : Distinct (.integer n)
  | float (x : Binary64) : Distinct (.float x)
  | boolean (b : Bool) : Distinct (.boolean b)
  | datetime (d : DateTime) : Distinct (.datetime d)
  | array {elements : List Value} (each : ∀ v ∈ elements, Distinct v) : Distinct (.array elements)
  | table {entries : List (String × Value)} (keys : KeysDistinct entries)
      (each : ∀ e ∈ entries, Distinct e.2) : Distinct (.table entries)

/-- A table of them does. -/
theorem Value.Distinct.keys {entries : List (String × Value)} (h : (Value.table entries).Distinct) :
    KeysDistinct entries := by
  cases h with
  | table keys _ => exact keys

/-- So does whatever is found in it. -/
theorem Value.Distinct.of_lookup {entries : List (String × Value)}
    (h : (Value.table entries).Distinct) {key : String} {v : Value}
    (hlookup : entries.lookup key = some v) : v.Distinct := by
  cases h with
  | table keys each => exact each (key, v) ((TextMap.lookup_eq_some_iff_mem keys).mp hlookup)

/-- All tables in a node have distinct keys. -/
inductive Node.Distinct : Node → Prop
  | leaf {value : Value} (distinct : value.Distinct) : Distinct (.leaf value)
  | table (origin : Origin) {entries : Entries} (keys : KeysDistinct entries)
      (each : ∀ e ∈ entries, Distinct e.2) : Distinct (.table origin entries)
  | tables {elements : List Entries} (keys : ∀ entries ∈ elements, KeysDistinct entries)
      (each : ∀ entries ∈ elements, ∀ e ∈ entries, Distinct e.2) : Distinct (.tables elements)

/-- A table under construction has distinct keys, and so have the tables in it. -/
structure Entries.Distinct (entries : Entries) : Prop where
  keys : KeysDistinct entries
  each : ∀ e ∈ entries, e.2.Distinct

/-! ## Finished values

A finished value is made by passing through all nodes. The passes over entries and elements are
written as recursions of their own; as maps they change no key and drop no entry. -/

namespace Node

theorem entryValues_eq_map (entries : Entries) :
    entryValues entries = entries.map fun e => (e.1, e.2.toValue) := by
  induction entries with
  | nil => rfl
  | cons e entries ih =>
    rw [List.map_cons, ← ih]
    rfl

theorem elementValues_eq_map (elements : List Entries) :
    elementValues elements = elements.map fun entries => .table (entryValues entries) := by
  induction elements with
  | nil => rfl
  | cons entries elements ih =>
    rw [List.map_cons, ← ih]
    rfl

/-- Finishing the nodes of a table leaves its keys alone. -/
theorem keysDistinct_entryValues {entries : Entries} (h : KeysDistinct entries) :
    KeysDistinct (entryValues entries) := by
  rw [entryValues_eq_map]
  exact List.pairwise_map.mpr h

/-- What holds of each finished node holds of each finished entry. -/
theorem each_entryValues {entries : Entries} (h : ∀ e ∈ entries, e.2.toValue.Distinct) :
    ∀ e ∈ entryValues entries, e.2.Distinct := by
  intro e he
  rw [entryValues_eq_map] at he
  obtain ⟨node, hnode, rfl⟩ := List.mem_map.mp he
  exact h node hnode

/-- A finished value is as distinct as its node. -/
theorem Distinct.toValue {node : Node} (h : node.Distinct) : node.toValue.Distinct := by
  -- on the node: its tables, and the elements of an array of tables, have been finished before it
  induction h with
  | leaf distinct => exact distinct
  | table origin keys _ ih => exact .table (keysDistinct_entryValues keys) (each_entryValues ih)
  | @tables elements keys _ ih =>
    apply Value.Distinct.array
    intro v hv
    rw [elementValues_eq_map] at hv
    obtain ⟨entries, hentries, rfl⟩ := List.mem_map.mp hv
    exact .table (keysDistinct_entryValues (keys entries hentries))
      (each_entryValues (ih entries hentries))

end Node

namespace Entries

variable {entries entries' : Entries} {key : List String}

/-- The root table, finished. -/
theorem Distinct.toValue (h : Distinct entries) :
    (Value.table (Node.entryValues entries)).Distinct :=
  .table (Node.keysDistinct_entryValues h.keys)
    (Node.each_entryValues fun e he => (h.each e he).toValue)

/-- A table under construction may become a node of another one. -/
theorem Distinct.table (h : Distinct entries) (origin : Origin) :
    (Node.table origin entries).Distinct := .table origin h.keys h.each

/-- So may a sequence of them. -/
theorem Distinct.tables {elements : List Entries} (h : ∀ entries ∈ elements, Distinct entries) :
    (Node.tables elements).Distinct :=
  .tables (fun entries hentries => (h entries hentries).keys)
    fun entries hentries => (h entries hentries).each

/-- A table that is taken out of a node to be edited. -/
theorem distinct_of_table {origin : Origin} (h : (Node.table origin entries).Distinct) :
    Distinct entries := by
  cases h with
  | table _ keys each => exact ⟨keys, each⟩

/-- The tables of a sequence, likewise. -/
theorem distinct_of_tables {elements : List Entries} (h : (Node.tables elements).Distinct) :
    ∀ entries ∈ elements, Distinct entries := by
  cases h with
  | tables keys each => exact fun entries hentries => ⟨keys entries hentries, each entries hentries⟩

/-! ## Changes of one table

Four things happen to a table: it is made, an entry is added at the end of it, a node is put in the
place of another one, and an entry is taken out. Only adding an entry brings in a key, and it is done
where a lookup found none. -/

theorem distinct_nil : Distinct [] := ⟨List.Pairwise.nil, fun _ he => absurd he List.not_mem_nil⟩

/-- What is found in a table is as distinct as the table. -/
theorem Distinct.of_lookup (h : Distinct entries) {key : String} {node : Node}
    (hlookup : entries.lookup key = some node) : node.Distinct :=
  h.each (key, node) ((TextMap.lookup_eq_some_iff_mem h.keys).mp hlookup)

/-- A new key is different from all others. -/
theorem Distinct.add (h : Distinct entries) {key : String} (hnew : entries.lookup key = none)
    {node : Node} (hnode : node.Distinct) : Distinct (entries.add key node) := by
  -- the lookup failed, so the key is not there
  have hne : ∀ e ∈ entries, e.1 ≠ key := by
    intro e he heq
    have hbne := List.lookup_eq_none_iff.mp hnew e he
    exact (by simpa using hbne : key ≠ e.1) heq.symm
  refine ⟨?_, ?_⟩
  · refine List.pairwise_append.mpr ⟨h.keys, List.pairwise_singleton _ _, ?_⟩
    intro e he d hd
    rw [List.mem_singleton.mp hd]
    exact hne e he
  · intro e he
    rcases List.mem_append.mp he with he | he
    · exact h.each e he
    · rw [List.mem_singleton.mp he]
      exact hnode

/-- Another node at a key changes no key. -/
theorem Distinct.replace (h : Distinct entries) {key : String} {node : Node}
    (hnode : node.Distinct) : Distinct (entries.replace key node) := by
  have hkey : ∀ e : String × Node, (if e.1 = key then (key, node) else e).1 = e.1 := by
    intro e
    by_cases he : e.1 = key
    · rw [if_pos he, he]
    · rw [if_neg he]
  refine ⟨?_, ?_⟩
  · apply List.pairwise_map.mpr
    apply h.keys.imp
    intro a b hab
    rw [hkey, hkey]
    exact hab
  · intro e he
    obtain ⟨d, hd, rfl⟩ := List.mem_map.mp he
    by_cases hkey : d.1 = key
    · rw [if_pos hkey]
      exact hnode
    · rw [if_neg hkey]
      exact h.each d hd

/-- Without one of its entries a table is still distinct. -/
theorem Distinct.remove (h : Distinct entries) (key : String) : Distinct (entries.remove key) :=
  ⟨h.keys.filter _, fun e he => h.each e (List.mem_of_mem_filter he)⟩

/-! ## Edits at the end of a path

`Entries.editAt` goes down a path and puts every table on it back in its place with the change made.
It takes the change as an argument, and so does what is shown of it: each kind of change has only to
look at the one table that it is made in. -/

/-- An edit keeps keys distinct, and so are those of what it answers. -/
def KeepsDistinct {β : Type} (Good : β → Prop) (edit : Origin → Entries → Option (β × Entries)) :
    Prop :=
  ∀ origin inner answer inner', Distinct inner → edit origin inner = some (answer, inner') →
    Good answer ∧ Distinct inner'

/-- **An edit at the end of a path** keeps all keys distinct if it keeps those of its table so. -/
theorem KeepsDistinct.editAt {β : Type} {Good : β → Prop}
    {edit : Origin → Entries → Option (β × Entries)} (hedit : KeepsDistinct Good edit)
    (byDottedKey : Bool) (path : List String) :
    KeepsDistinct Good (Entries.editAt byDottedKey edit path) := by
  -- on the path: below its first key the edit is one at the end of a shorter path
  induction path with
  | nil =>
    intro origin inner answer inner' h hresult
    rw [Entries.editAt] at hresult
    exact hedit origin inner answer inner' h hresult
  | cons key path ih =>
    intro origin inner answer inner' h hresult
    rw [Entries.editAt] at hresult
    split at hresult
    next hlookup =>
      -- a table that is missing is made
      obtain ⟨⟨found, made⟩, hmade, heq⟩ := Option.bind_eq_some_iff.mp hresult
      cases heq
      obtain ⟨hgood, hinner⟩ := ih _ _ _ _ distinct_nil hmade
      exact ⟨hgood, h.add hlookup (hinner.table _)⟩
    next => cases hresult
    next origin' table hlookup =>
      -- a table that is there is put back with the change
      split at hresult
      next => cases hresult
      next =>
        obtain ⟨⟨found, changed⟩, hchanged, heq⟩ := Option.bind_eq_some_iff.mp hresult
        cases heq
        obtain ⟨hgood, hinner⟩ := ih _ _ _ _ (distinct_of_table (h.of_lookup hlookup)) hchanged
        exact ⟨hgood, h.replace (hinner.table _)⟩
    next elements hlookup =>
      -- of an array of tables the last one is changed, the others stay
      have helements := distinct_of_tables (h.of_lookup hlookup)
      obtain ⟨last, hlast, hresult⟩ := Option.bind_eq_some_iff.mp hresult
      obtain ⟨⟨found, changed⟩, hchanged, heq⟩ := Option.bind_eq_some_iff.mp hresult
      cases heq
      obtain ⟨hgood, hinner⟩ := ih _ _ _ _ (helements last (List.mem_of_getLast? hlast)) hchanged
      refine ⟨hgood, h.replace (Distinct.tables ?_)⟩
      intro element helement
      rcases List.mem_append.mp helement with helement | helement
      · exact helements element (List.dropLast_subset elements helement)
      · rw [List.mem_singleton.mp helement]
        exact hinner

/-- The same for an edit without an answer. -/
theorem KeepsDistinct.map_snd {edit : Origin → Entries → Option (Unit × Entries)}
    (hedit : KeepsDistinct (fun _ => True) edit) {byDottedKey : Bool} {path : List String}
    (h : Distinct entries)
    (hresult : (Entries.editAt byDottedKey edit path .written entries).map Prod.snd
      = some entries') : Distinct entries' := by
  obtain ⟨⟨answer, inner⟩, hanswer, rfl⟩ := Option.map_eq_some_iff.mp hresult
  exact (hedit.editAt byDottedKey path _ _ _ _ h hanswer).2

/-- A value is entered where its key is free. -/
theorem Distinct.enter (h : Distinct entries) {value : Value} (hvalue : value.Distinct)
    (hresult : entries.enter key value = some entries') : Distinct entries' := by
  -- the last key is looked up in the table at the end of the others
  obtain ⟨⟨path, last⟩, -, hresult⟩ := Option.bind_eq_some_iff.mp hresult
  refine KeepsDistinct.map_snd ?_ h hresult
  intro origin inner answer inner' hinner heq
  dsimp only at heq
  split at heq
  next => cases heq
  next hfree =>
    cases heq
    rw [not_or, Bool.not_eq_true, Option.isSome_eq_false_iff, Option.isNone_iff_eq_none] at hfree
    exact ⟨trivial, hinner.add hfree.2 (.leaf hvalue)⟩

/-- A table is taken out to be continued; a table that is missing begins empty. Both what was taken
and what is left are distinct. -/
theorem Distinct.takeTable (h : Distinct entries) {table : Entries}
    (hresult : entries.takeTable key = some (table, entries')) :
    Distinct table ∧ Distinct entries' := by
  obtain ⟨⟨path, last⟩, -, hresult⟩ := Option.bind_eq_some_iff.mp hresult
  suffices hedit : KeepsDistinct Distinct _ from hedit.editAt false path _ _ _ _ h hresult
  intro origin inner answer inner' hinner heq
  dsimp only at heq
  split at heq
  next =>
    cases heq
    exact ⟨distinct_nil, hinner⟩
  next found hlookup =>
    cases heq
    exact ⟨distinct_of_table (hinner.of_lookup hlookup), hinner.remove last⟩
  next => cases heq

/-- It is put back where nothing has taken its key meanwhile. -/
theorem Distinct.putTable (h : Distinct entries) {table : Entries} (htable : Distinct table)
    (hresult : entries.putTable key table = some entries') : Distinct entries' := by
  obtain ⟨⟨path, last⟩, -, hresult⟩ := Option.bind_eq_some_iff.mp hresult
  refine KeepsDistinct.map_snd ?_ h hresult
  intro origin inner answer inner' hinner heq
  dsimp only at heq
  split at heq
  next hlookup =>
    cases heq
    exact ⟨trivial, hinner.add hlookup (htable.table _)⟩
  next => cases heq

/-- Opening an element makes the array if it is missing, and adds no key otherwise. -/
theorem Distinct.openElement (h : Distinct entries)
    (hresult : entries.openElement key = some entries') : Distinct entries' := by
  obtain ⟨⟨path, last⟩, -, hresult⟩ := Option.bind_eq_some_iff.mp hresult
  refine KeepsDistinct.map_snd ?_ h hresult
  intro origin inner answer inner' hinner heq
  dsimp only at heq
  split at heq
  next hlookup =>
    cases heq
    have hnone : ∀ entries ∈ ([] : List Entries), Distinct entries :=
      fun _ he => absurd he List.not_mem_nil
    exact ⟨trivial, hinner.add hlookup (Distinct.tables hnone)⟩
  next =>
    cases heq
    exact ⟨trivial, hinner⟩
  next => cases heq

/-- A closed element goes to the end of its array. -/
theorem Distinct.putElement (h : Distinct entries) {element : Entries} (helement : Distinct element)
    (hresult : entries.putElement key element = some entries') : Distinct entries' := by
  obtain ⟨⟨path, last⟩, -, hresult⟩ := Option.bind_eq_some_iff.mp hresult
  refine KeepsDistinct.map_snd ?_ h hresult
  intro origin inner answer inner' hinner heq
  dsimp only at heq
  split at heq
  next elements hlookup =>
    cases heq
    refine ⟨trivial, hinner.replace (Distinct.tables ?_)⟩
    intro entries hentries
    rcases List.mem_append.mp hentries with hentries | hentries
    · exact distinct_of_tables (hinner.of_lookup hlookup) entries hentries
    · rw [List.mem_singleton.mp hentries]
      exact helement
  next => cases heq

end Entries

/-! ## Readers

Values are read by readers that take the reader of their parts as an argument. So each of them is
shown to find distinct keys if its argument does, and the induction on the depth comes last. -/

/-- Whatever a reader finds has distinct keys. -/
def FindsDistinct (read : Reader Value) : Prop :=
  ∀ s value r, read s = some (value, r) → value.Distinct

/-- A reader finds what it makes of what was read. -/
theorem findsDistinct_readAs {α : Type} {make : α → Value} (h : ∀ a, (make a).Distinct)
    (read : Reader α) : FindsDistinct (readAs make read) := by
  intro s value r hread
  obtain ⟨⟨found, r'⟩, -, heq⟩ := Option.map_eq_some_iff.mp hread
  cases heq
  exact h found

/-- Of two readers one has found what is found. -/
theorem FindsDistinct.or {read read' : Reader Value} (h : FindsDistinct read)
    (h' : FindsDistinct read') : FindsDistinct fun s => (read s).or (read' s) := by
  intro s value r hread
  rcases Option.or_eq_some_iff.mp hread with hread | ⟨-, hread⟩
  · exact h s value r hread
  · exact h' s value r hread

/-- A value without parts has no table. -/
theorem findsDistinct_readScalar : FindsDistinct readScalar :=
  (findsDistinct_readAs .string readString).or <|
    (findsDistinct_readAs .boolean readBoolean).or <|
    (findsDistinct_readAs .datetime readDateTime).or <|
    (findsDistinct_readAs .float readDecimal).or <|
    (findsDistinct_readAs .float readSpecial).or <|
    findsDistinct_readAs .integer readInteger

/-- The elements of an array, one after the other. -/
theorem distinct_of_readElements {read : Reader Value} (hread : FindsDistinct read) {n : Nat}
    {s r : List Char} {values : List Value} (h : readElements read n s = some (values, r)) :
    ∀ v ∈ values, v.Distinct := by
  induction n generalizing s values with
  | zero => cases h
  | succ n ih =>
    rw [readElements] at h
    obtain ⟨s, -, h⟩ := Option.bind_eq_some_iff.mp h
    split at h
    next =>
      cases h
      exact fun _ hv => absurd hv List.not_mem_nil
    next =>
      obtain ⟨⟨value, s⟩, hvalue, h⟩ := Option.bind_eq_some_iff.mp h
      obtain ⟨s, -, h⟩ := Option.bind_eq_some_iff.mp h
      have hfirst := hread _ _ _ hvalue
      split at h
      next =>
        obtain ⟨⟨rest, r⟩, hrest, h⟩ := Option.bind_eq_some_iff.mp h
        cases h
        exact List.forall_mem_cons.mpr ⟨hfirst, ih hrest⟩
      next =>
        cases h
        exact List.forall_mem_singleton.mpr hfirst
      next => cases h

/-- A key is a text, so only the value of a pair has tables. -/
theorem distinct_of_readPair {read : Reader Value} (hread : FindsDistinct read) {s r : List Char}
    {pair : List String × Value} (h : readPair read s = some (pair, r)) : pair.2.Distinct := by
  obtain ⟨⟨key, s⟩, -, h⟩ := Option.bind_eq_some_iff.mp h
  obtain ⟨s, -, h⟩ := Option.bind_eq_some_iff.mp h
  obtain ⟨⟨value, s⟩, hvalue, h⟩ := Option.bind_eq_some_iff.mp h
  cases h
  exact hread _ _ _ hvalue

/-- The pairs of an inline table, one after the other. -/
theorem distinct_of_readPairs {read : Reader Value} (hread : FindsDistinct read) {n : Nat}
    {s r : List Char} {pairs : List (List String × Value)}
    (h : readPairs read n s = some (pairs, r)) : ∀ pair ∈ pairs, pair.2.Distinct := by
  induction n generalizing s pairs with
  | zero => cases h
  | succ n ih =>
    rw [readPairs] at h
    obtain ⟨⟨pair, s⟩, hpair, h⟩ := Option.bind_eq_some_iff.mp h
    have hfirst := distinct_of_readPair hread hpair
    dsimp only at h
    split at h
    next =>
      obtain ⟨⟨rest, r⟩, hrest, h⟩ := Option.bind_eq_some_iff.mp h
      cases h
      exact List.forall_mem_cons.mpr ⟨hfirst, ih hrest⟩
    next =>
      cases h
      exact List.forall_mem_singleton.mpr hfirst
    next => cases h

/-- Pairs that are entered one after the other keep the keys of their table distinct. -/
theorem distinct_of_tableOfPairs {pairs : List (List String × Value)} {table : Value}
    (hpairs : ∀ pair ∈ pairs, pair.2.Distinct) (h : tableOfPairs pairs = some table) :
    table.Distinct := by
  obtain ⟨entries, hentries, rfl⟩ := Option.map_eq_some_iff.mp h
  -- the pairs go into a table that has others already
  suffices hfold : ∀ (start : Entries), start.Distinct →
      pairs.foldlM (fun (entries : Entries) pair => entries.enter pair.1 pair.2) start
        = some entries → Entries.Distinct entries from
    (hfold [] Entries.distinct_nil hentries).toValue
  clear h hentries
  induction pairs with
  | nil =>
    intro start hstart hfold
    cases hfold
    exact hstart
  | cons pair pairs ih =>
    intro start hstart hfold
    rw [List.foldlM_cons] at hfold
    obtain ⟨next, hnext, hfold⟩ := Option.bind_eq_some_iff.mp hfold
    obtain ⟨hpair, hrest⟩ := List.forall_mem_cons.mp hpairs
    exact ih hrest next (hstart.enter hpair hnext) hfold

/-- An inline table has the keys of its pairs. -/
theorem FindsDistinct.readInline {read : Reader Value} (hread : FindsDistinct read) :
    FindsDistinct (readInline read) := by
  intro s value r h
  unfold Toml.readInline at h
  split at h
  next =>
    cases h
    exact .table List.Pairwise.nil fun _ he => absurd he List.not_mem_nil
  next =>
    obtain ⟨⟨pairs, r⟩, hpairs, h⟩ := Option.bind_eq_some_iff.mp h
    obtain ⟨table, htable, h⟩ := Option.bind_eq_some_iff.mp h
    cases h
    exact distinct_of_tableOfPairs (distinct_of_readPairs hread hpairs) htable

/-- **Every value** has distinct keys, whatever its depth. -/
theorem findsDistinct_readValue (depth : Nat) : FindsDistinct (readValue depth) := by
  induction depth with
  | zero => exact findsDistinct_readScalar
  | succ depth ih =>
    intro s value r h
    unfold readValue at h
    split at h
    next =>
      obtain ⟨⟨values, r⟩, hvalues, h⟩ := Option.map_eq_some_iff.mp h
      cases h
      exact .array (distinct_of_readElements ih hvalues)
    next => exact ih.readInline _ _ _ h
    next => exact findsDistinct_readScalar _ _ _ h

/-! ## Documents

A document is read line by line. Its progress is a root table and the table that the last header
opened, which is not in the root until the next header closes it. Both are kept distinct. -/

/-- All tables that are closed or open have distinct keys. -/
structure Progress.Distinct (p : Progress) : Prop where
  root : p.root.Distinct
  current : p.current.Distinct

namespace Progress

variable {p p' : Progress} {header : List String}

/-- Closing puts the open table into the root. -/
theorem Distinct.close (h : p.Distinct) {root : Entries} (hclose : p.close = some root) :
    root.Distinct := by
  unfold Progress.close at hclose
  split at hclose
  next =>
    cases hclose
    exact h.current
  next =>
    split at hclose
    next => exact h.root.putElement h.current hclose
    next => exact h.root.putTable h.current hclose

/-- Opening a table closes the one before. -/
theorem Distinct.openTable (h : p.Distinct) (hopen : p.openTable header = some p') :
    p'.Distinct := by
  obtain ⟨root, hroot, hopen⟩ := Option.bind_eq_some_iff.mp hopen
  obtain ⟨⟨current, rest⟩, htaken, hopen⟩ := Option.bind_eq_some_iff.mp hopen
  cases hopen
  obtain ⟨hcurrent, hrest⟩ := (h.close hroot).takeTable htaken
  exact ⟨hrest, hcurrent⟩

/-- So does opening an element, and that begins empty. -/
theorem Distinct.openElement (h : p.Distinct) (hopen : p.openElement header = some p') :
    p'.Distinct := by
  obtain ⟨root, hroot, hopen⟩ := Option.bind_eq_some_iff.mp hopen
  obtain ⟨rest, hrest, hopen⟩ := Option.bind_eq_some_iff.mp hopen
  cases hopen
  exact ⟨(h.close hroot).openElement hrest, Entries.distinct_nil⟩

/-- A pair goes into the open table. -/
theorem Distinct.enter (h : p.Distinct) {key : List String} {value : Value}
    (hvalue : value.Distinct) (henter : p.enter key value = some p') : p'.Distinct := by
  obtain ⟨current, hcurrent, henter⟩ := Option.bind_eq_some_iff.mp henter
  cases henter
  exact ⟨h.root, h.current.enter hvalue hcurrent⟩

end Progress

/-- **One line** keeps all keys distinct. -/
theorem distinct_of_readLine {p p' : Progress} (h : p.Distinct) {s r : List Char}
    (hline : readLine p s = some (p', r)) : p'.Distinct := by
  unfold readLine at hline
  split at hline
  next =>
    -- a comment
    obtain ⟨r, -, hline⟩ := Option.bind_eq_some_iff.mp hline
    cases hline
    exact h
  next =>
    obtain ⟨⟨header, r⟩, -, hline⟩ := Option.bind_eq_some_iff.mp hline
    obtain ⟨r, -, hline⟩ := Option.bind_eq_some_iff.mp hline
    obtain ⟨r, -, hline⟩ := Option.bind_eq_some_iff.mp hline
    obtain ⟨r, -, hline⟩ := Option.bind_eq_some_iff.mp hline
    obtain ⟨p, hopen, hline⟩ := Option.bind_eq_some_iff.mp hline
    cases hline
    exact h.openElement hopen
  next =>
    obtain ⟨⟨header, r⟩, -, hline⟩ := Option.bind_eq_some_iff.mp hline
    obtain ⟨r, -, hline⟩ := Option.bind_eq_some_iff.mp hline
    obtain ⟨r, -, hline⟩ := Option.bind_eq_some_iff.mp hline
    obtain ⟨p, hopen, hline⟩ := Option.bind_eq_some_iff.mp hline
    cases hline
    exact h.openTable hopen
  next =>
    obtain ⟨⟨⟨key, value⟩, r⟩, hpair, hline⟩ := Option.bind_eq_some_iff.mp hline
    obtain ⟨r, -, hline⟩ := Option.bind_eq_some_iff.mp hline
    obtain ⟨p, henter, hline⟩ := Option.bind_eq_some_iff.mp hline
    cases hline
    exact h.enter (distinct_of_readPair (findsDistinct_readValue deepest) hpair) henter

/-- All lines do. -/
theorem distinct_of_readLines {n : Nat} {p p' : Progress} (h : p.Distinct) {s : List Char}
    (hlines : readLines n p s = some p') : p'.Distinct := by
  induction n generalizing p s with
  | zero => cases hlines
  | succ n ih =>
    rw [readLines] at hlines
    split at hlines
    next =>
      cases hlines
      exact h
    next =>
      split at hlines
      next => exact ih h hlines
      next =>
        obtain ⟨⟨next, r⟩, hline, hlines⟩ := Option.bind_eq_some_iff.mp hlines
        exact ih (distinct_of_readLine h hline) hlines

/-- **Distinct keys.** All tables of a document that is read have distinct keys, the root table and
the tables in it alike. -/
theorem distinct_of_parse {text : String} {entries : List (String × Value)}
    (h : parse? text = some entries) : (Value.table entries).Distinct := by
  obtain ⟨p, hlines, h⟩ := Option.bind_eq_some_iff.mp h
  obtain ⟨root, hclose, h⟩ := Option.bind_eq_some_iff.mp h
  cases h
  have hstart : Progress.Distinct {} := ⟨Entries.distinct_nil, Entries.distinct_nil⟩
  exact ((distinct_of_readLines hstart hlines).close hclose).toValue

/-- A key that is given twice is refused. -/
example : parse? "a = 1\na = 2" = none := by decide +kernel

end SessionPlan.Toml
