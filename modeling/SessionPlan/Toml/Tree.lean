/-
Tables under construction.

A document names the entries of its tables piecemeal: by headers, by dotted keys, and by elements of
arrays of tables. While it is read, each table therefore remembers how it **came to be**, since that
decides which pieces may still be added:

* a table with its own header or braces is finished for dotted keys;
* a table that a longer header implies may get its own header later;
* a table that a dotted key opened grows by dotted keys only.

Every change is an edit at the end of a path of keys. Tables missing on the way are made; the last
element of an array of tables stands for the array.
-/
import SessionPlan.Toml.Value

set_option autoImplicit false

namespace SessionPlan.Toml

/-- How a table came to be. -/
inductive Origin where
  /-- It has a header or braces of its own. -/
  | written
  /-- A header of a table inside it implies it. -/
  | implied
  /-- A dotted key opened it. -/
  | dotted
deriving DecidableEq

/-- A value of a document that is still being read. -/
inductive Node where
  | leaf (value : Value)
  | table (origin : Origin) (entries : List (String × Node))
  | tables (elements : List (List (String × Node)))

/-- The entries of a table that is still being read. -/
abbrev Entries := List (String × Node)

namespace Entries

/-- Entries with a new node at a key that they have. -/
def replace (entries : Entries) (key : String) (node : Node) : Entries :=
  entries.map fun e => if e.1 = key then (key, node) else e

/-- Entries without a key. -/
def remove (entries : Entries) (key : String) : Entries := entries.filter fun e => e.1 ≠ key

/-- Entries with one more key at the end. -/
def add (entries : Entries) (key : String) (node : Node) : Entries := entries ++ [(key, node)]

/-- Edits the table at the end of a path. The edit sees how that table came to be and may also
answer something. -/
def editAt {β : Type} (byDottedKey : Bool) (edit : Origin → Entries → Option (β × Entries)) :
    (path : List String) → Origin → Entries → Option (β × Entries)
  | [], origin, entries => edit origin entries
  | key :: path, _, entries =>
    match entries.lookup key with
    | none => do
      let origin := if byDottedKey then .dotted else .implied
      let (answer, inner) ← editAt byDottedKey edit path origin []
      some (answer, entries.add key (.table origin inner))
    | some (.leaf _) => none
    | some (.table origin inner) =>
      if byDottedKey ∧ origin = .written then none
      else do
        let (answer, inner) ← editAt byDottedKey edit path origin inner
        some (answer, entries.replace key (.table origin inner))
    | some (.tables elements) => do
      let last ← elements.getLast?
      let (answer, inner) ← editAt byDottedKey edit path .written last
      some (answer, entries.replace key (.tables (elements.dropLast ++ [inner])))

/-- The path in front of the last key, and that key. -/
def splitKey (key : List String) : Option (List String × String) :=
  key.getLast?.map fun last => (key.dropLast, last)

/-- Enters a value under a dotted key. The key must be new, and it must not reach into a table that
a header implies. -/
def enter (entries : Entries) (key : List String) (value : Value) : Option Entries := do
  let (path, last) ← splitKey key
  let edit (origin : Origin) (inner : Entries) : Option (Unit × Entries) :=
    if (path ≠ [] ∧ origin ≠ .dotted) ∨ (inner.lookup last).isSome then none
    else some ((), inner.add last (.leaf value))
  (editAt true edit path .written entries).map Prod.snd

/-- Takes out the table that a header names, to be filled. There is none yet, or one that other
headers imply. -/
def takeTable (entries : Entries) (key : List String) : Option (Entries × Entries) := do
  let (path, last) ← splitKey key
  let edit (_ : Origin) (inner : Entries) : Option (Entries × Entries) :=
    match inner.lookup last with
    | none => some ([], inner)
    | some (.table .implied found) => some (found, inner.remove last)
    | some _ => none
  editAt false edit path .written entries

/-- Puts a filled table where its header says. -/
def putTable (entries : Entries) (key : List String) (table : Entries) : Option Entries := do
  let (path, last) ← splitKey key
  let edit (_ : Origin) (inner : Entries) : Option (Unit × Entries) :=
    match inner.lookup last with
    | none => some ((), inner.add last (.table .written table))
    | some _ => none
  (editAt false edit path .written entries).map Prod.snd

/-- Makes room for an element of an array of tables: the key is new or names such an array. -/
def openElement (entries : Entries) (key : List String) : Option Entries := do
  let (path, last) ← splitKey key
  let edit (_ : Origin) (inner : Entries) : Option (Unit × Entries) :=
    match inner.lookup last with
    | none => some ((), inner.add last (.tables []))
    | some (.tables _) => some ((), inner)
    | some _ => none
  (editAt false edit path .written entries).map Prod.snd

/-- Puts a filled element at the end of its array of tables. -/
def putElement (entries : Entries) (key : List String) (element : Entries) : Option Entries := do
  let (path, last) ← splitKey key
  let edit (_ : Origin) (inner : Entries) : Option (Unit × Entries) :=
    match inner.lookup last with
    | some (.tables elements) => some ((), inner.replace last (.tables (elements ++ [element])))
    | _ => none
  (editAt false edit path .written entries).map Prod.snd

end Entries

/-! ## Finished values -/

mutual

/-- The value that a node has become. -/
def Node.toValue : Node → Value
  | .leaf value => value
  | .table _ entries => .table (Node.entryValues entries)
  | .tables elements => .array (Node.elementValues elements)

/-- The entries of a finished table. -/
def Node.entryValues : List (String × Node) → List (String × Value)
  | [] => []
  | (key, node) :: r => (key, node.toValue) :: Node.entryValues r

/-- The elements of a finished array of tables. -/
def Node.elementValues : List (List (String × Node)) → List Value
  | [] => []
  | entries :: r => .table (Node.entryValues entries) :: Node.elementValues r

end

end SessionPlan.Toml
