/-
Documents.

A document is a sequence of lines, each a key with a value, a header or nothing. A header closes the
table before it and opens another; the entries in front of the first header belong to the root.
Values nest to a fixed depth, which is the measure by which their reader ends.
-/
import SessionPlan.Toml.Literal
import SessionPlan.Toml.Tree

set_option autoImplicit false

namespace SessionPlan.Toml

/-! ## Arrays and inline tables -/

/-- Reads the elements of an array up to its closing bracket, at most `n` of them. Blanks, newlines
and comments may stand anywhere between them, and a comma behind the last. -/
def readElements (read : Reader Value) : (n : Nat) → Reader (List Value)
  | 0, _ => none
  | n + 1, s => do
    let s ← skipFiller false s
    match s with
    | ']' :: r => some ([], r)
    | s =>
      let (value, s) ← read s
      let s ← skipFiller false s
      match s with
      | ',' :: r =>
        let (values, r) ← readElements read n r
        some (value :: values, r)
      | ']' :: r => some ([value], r)
      | _ => none

/-- Reads a key, an equals sign and a value. -/
def readPair (read : Reader Value) : Reader (List String × Value) := fun s => do
  let (key, s) ← readKey s
  let s ← skipChar? '=' s
  let (value, s) ← read (skipSpaces s)
  some ((key, value), s)

/-- Reads the pairs of an inline table up to its closing brace, at least one and at most `n` of
them. They stand on one line, without a comma behind the last. -/
def readPairs (read : Reader Value) : (n : Nat) → Reader (List (List String × Value))
  | 0, _ => none
  | n + 1, s => do
    let (pair, s) ← readPair read s
    match skipSpaces s with
    | ',' :: r =>
      let (pairs, r) ← readPairs read n r
      some (pair :: pairs, r)
    | '}' :: r => some ([pair], r)
    | _ => none

/-- The table that pairs make. -/
def tableOfPairs (pairs : List (List String × Value)) : Option Value :=
  (pairs.foldlM (fun (entries : Entries) (key, value) => entries.enter key value) []).map
    fun entries => .table (Node.entryValues entries)

/-- Reads the rest of an inline table. -/
def readInline (read : Reader Value) : Reader Value := fun s =>
  match skipSpaces s with
  | '}' :: r => some (.table [], r)
  | s => do
    let (pairs, r) ← readPairs read s.length s
    let table ← tableOfPairs pairs
    some (table, r)

/-- Reads a value with at most `depth` levels of arrays and inline tables. -/
def readValue : (depth : Nat) → Reader Value
  | 0, s => readScalar s
  | depth + 1, s =>
    match s with
    | '[' :: r => readAs .array (readElements (readValue depth) (r.length + 1)) r
    | '{' :: r => readInline (readValue depth) r
    | s => readScalar s

/-! ## Lines -/

/-- A document that is read up to some line: the tables that are closed, and the open one with its
header. -/
structure Progress where
  root : Entries := []
  current : Entries := []
  header : List String := []
  /-- Whether the open table is an element of an array of tables. -/
  isElement : Bool := false

namespace Progress

/-- All tables, the open one closed. -/
def close (p : Progress) : Option Entries :=
  if p.header = [] then some p.current
  else if p.isElement then p.root.putElement p.header p.current
  else p.root.putTable p.header p.current

/-- Opens the table that a header names. -/
def openTable (p : Progress) (header : List String) : Option Progress := do
  let root ← p.close
  let (current, root) ← root.takeTable header
  some { root, current, header, isElement := false }

/-- Opens a new element of the array of tables that a header names. -/
def openElement (p : Progress) (header : List String) : Option Progress := do
  let root ← p.close
  let root ← root.openElement header
  some { root, current := [], header, isElement := true }

/-- Enters a value into the open table. -/
def enter (p : Progress) (key : List String) (value : Value) : Option Progress := do
  let current ← p.current.enter key value
  some { p with current }

end Progress

/-- Reads one line that is not blank, and its newline. -/
def readLine (p : Progress) : Reader Progress := fun s =>
  match s with
  | '#' :: _ => do
    let r ← endOfLine? s
    some (p, r)
  | '[' :: '[' :: r => do
    let (header, r) ← readKey r
    let r ← skipChar? ']' r
    let r ← skipChar? ']' r
    let r ← endOfLine? r
    let p ← p.openElement header
    some (p, r)
  | '[' :: r => do
    let (header, r) ← readKey r
    let r ← skipChar? ']' r
    let r ← endOfLine? r
    let p ← p.openTable header
    some (p, r)
  | s => do
    let ((key, value), r) ← readPair (readValue deepest) s
    let r ← endOfLine? r
    let p ← p.enter key value
    some (p, r)

/-- Reads at most `n` lines, up to the end of the document. -/
def readLines : (n : Nat) → Progress → List Char → Option Progress
  | 0, _, _ => none
  | n + 1, p, s =>
    match skipSpaces s with
    | [] => some p
    | s =>
      match newline? s with
      | some r => readLines n p r
      | none => do
        let (p, r) ← readLine p s
        readLines n p r

/-- A document without the byte-order mark in front. -/
def dropMark : List Char → List Char
  | '\uFEFF' :: r => r
  | s => s

/-- The entries of the root table of a document. -/
def parse? (text : String) : Option (List (String × Value)) := do
  let s := dropMark text.toList
  let p ← readLines (s.length + 1) {} s
  let root ← p.close
  some (Node.entryValues root)

end SessionPlan.Toml
