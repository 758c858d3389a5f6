/-
Reading a document from the front.

A reader takes the characters that lie ahead and gives a value together with the characters behind
it, or nothing when what lies ahead is not of its form. Readers for blanks and comments give only
the characters behind. A document is refused as a whole, so no reader says where or why it failed.
-/
set_option autoImplicit false

namespace SessionPlan.Toml

/-- Reads a value from the front of a text. -/
abbrev Reader (α : Type) := List Char → Option (α × List Char)

/-! ## Character classes -/

/-- A space or a tab. -/
def isSpace (c : Char) : Bool := c = ' ' || c = '\t'

/-- A character that comments and strings may hold: a tab, visible ASCII or anything beyond. -/
def isTextChar (c : Char) : Bool := c = '\t' || (0x20 ≤ c.toNat && c.toNat ≤ 0x7E) || 0x80 ≤ c.toNat

/-- A hexadecimal digit of either case. -/
def isHexDigit (c : Char) : Bool :=
  c.isDigit || ('a' ≤ c && c ≤ 'f') || ('A' ≤ c && c ≤ 'F')

/-- The value of a hexadecimal digit. -/
def hexDigitValue (c : Char) : Nat :=
  if c.isDigit then c.toNat - 0x30 else if c ≤ 'F' then c.toNat - 0x37 else c.toNat - 0x57

/-- The value of a sequence of digits in a base up to sixteen. -/
def valueInBase (base : Nat) (digits : List Char) : Nat :=
  digits.foldl (fun n c => base * n + hexDigitValue c) 0

/-! ## Blanks, newlines and comments -/

/-- What follows the spaces and tabs. -/
def skipSpaces (s : List Char) : List Char := s.dropWhile isSpace

/-- What follows a newline, a line feed with or without a carriage return in front. -/
def newline? : List Char → Option (List Char)
  | '\n' :: r => some r
  | '\r' :: '\n' :: r => some r
  | _ => none

/-- What follows a comment, if there is one. -/
def skipComment : List Char → List Char
  | '#' :: r => r.dropWhile isTextChar
  | s => s

/-- What follows the rest of a line that holds nothing more than spaces and a comment. The last line
need not end in a newline. -/
def endOfLine? (s : List Char) : Option (List Char) :=
  match skipComment (skipSpaces s) with
  | [] => some []
  | r => newline? r

/-- What follows spaces and newlines. -/
def skipBlankLines : List Char → List Char
  | [] => []
  | c :: r =>
    if isSpace c || c = '\n' then skipBlankLines r
    else if c = '\r' ∧ r.head? = some '\n' then skipBlankLines r
    else c :: r

/-- What follows spaces, newlines and comments. Each comment has to end in a newline. -/
def skipFiller : (insideComment : Bool) → List Char → Option (List Char)
  | true, [] => none
  | false, [] => some []
  | insideComment, c :: r =>
    if c = '\n' then skipFiller false r
    else if c = '\r' then if r.head? = some '\n' then skipFiller false r else none
    else if insideComment then if isTextChar c then skipFiller true r else none
    else if isSpace c then skipFiller false r
    else if c = '#' then skipFiller true r
    else some (c :: r)

end SessionPlan.Toml
