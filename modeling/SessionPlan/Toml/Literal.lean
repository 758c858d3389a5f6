/-
Strings, numbers and keys of a document.

A basic string stands between double quotes and knows escapes; a literal string stands between
apostrophes and knows none. Either may be written on several lines between tripled quotes: then a
newline right behind the opening quotes is dropped, every newline inside counts as a line feed, and
up to two quotes may stand directly before the closing ones.
-/
import SessionPlan.Binary64.Numeral
import SessionPlan.Toml.Value

set_option autoImplicit false

namespace SessionPlan.Toml

/-! ## Escapes -/

/-- The character that `n` hexadecimal digits number, and their count. -/
def numberedChar? (n : Nat) (s : List Char) : Option (Char × Nat) :=
  let digits := s.take n
  let code := valueInBase 16 digits
  if digits.length = n ∧ digits.all isHexDigit ∧ code.isValidChar then some (Char.ofNat code, n)
  else none

/-- The character that an escape stands for, and how many characters behind the backslash the escape
takes. -/
def escape? : List Char → Option (Char × Nat)
  | 'b' :: _ => some ('\x08', 1)
  | 't' :: _ => some ('\t', 1)
  | 'n' :: _ => some ('\n', 1)
  | 'f' :: _ => some ('\x0c', 1)
  | 'r' :: _ => some ('\r', 1)
  | '"' :: _ => some ('"', 1)
  | '\\' :: _ => some ('\\', 1)
  | 'u' :: r => (numberedChar? 4 r).map fun (c, n) => (c, n + 1)
  | 'U' :: r => (numberedChar? 8 r).map fun (c, n) => (c, n + 1)
  | _ => none

/-- How many characters behind a backslash are dropped where it ends a line: the rest of the line,
which must be blank, and all blanks and newlines that follow. -/
def continuation? (s : List Char) : Option Nat :=
  (newline? (skipSpaces s)).map fun r => s.length - (skipBlankLines r).length

/-! ## Strings -/

/-- Puts a character in front of what a reader found. -/
def consChar (c : Char) (found : Option (List Char × List Char)) :
    Option (List Char × List Char) :=
  found.map fun (text, r) => (c :: text, r)

/-- Reads the rest of a one-line basic string, its first `skipped` characters left out. -/
def readBasicAfter : (skipped : Nat) → Reader (List Char)
  | _, [] => none
  | n + 1, _ :: r => readBasicAfter n r
  | 0, c :: r =>
    if c = '"' then some ([], r)
    else if c = '\\' then
      match escape? r with
      | some (d, n) => consChar d (readBasicAfter n r)
      | none => none
    else if isTextChar c then consChar c (readBasicAfter 0 r)
    else none

/-- What follows the closing quotes, and the quotes that still belong to the string, where `s` starts
with three or more of them. -/
def closingQuotes? (quote : Char) (s : List Char) : Option (List Char × List Char) :=
  let run := (s.takeWhile (· = quote)).length
  if run < 3 then none
  else some (List.replicate (min run 5 - 3) quote, s.drop (min run 5))

/-- Reads the rest of a basic string on several lines, its first `skipped` characters left out. -/
def readMultiBasicAfter : (skipped : Nat) → Reader (List Char)
  | _, [] => none
  | n + 1, _ :: r => readMultiBasicAfter n r
  | 0, c :: r =>
    if c = '"' then
      match closingQuotes? '"' (c :: r) with
      | some found => some found
      | none => consChar '"' (readMultiBasicAfter 0 r)
    else if c = '\\' then
      match continuation? r with
      | some n => readMultiBasicAfter n r
      | none =>
        match escape? r with
        | some (d, n) => consChar d (readMultiBasicAfter n r)
        | none => none
    else if c = '\n' ∨ isTextChar c then consChar c (readMultiBasicAfter 0 r)
    else if c = '\r' ∧ r.head? = some '\n' then readMultiBasicAfter 0 r
    else none

/-- Reads the rest of a one-line literal string. -/
def readLiteral : Reader (List Char)
  | [] => none
  | c :: r =>
    if c = '\x27' then some ([], r)
    else if isTextChar c then consChar c (readLiteral r)
    else none

/-- Reads the rest of a literal string on several lines. -/
def readMultiLiteral : Reader (List Char)
  | [] => none
  | c :: r =>
    if c = '\x27' then
      match closingQuotes? '\x27' (c :: r) with
      | some found => some found
      | none => consChar c (readMultiLiteral r)
    else if c = '\n' ∨ isTextChar c then consChar c (readMultiLiteral r)
    else if c = '\r' ∧ r.head? = some '\n' then readMultiLiteral r
    else none

/-- Whether a text starts with three quotes. -/
def opensTripled (quote : Char) (s : List Char) : Bool := s.take 3 = [quote, quote, quote]

/-- What follows three opening quotes and a newline behind them. -/
def behindTripled (s : List Char) : List Char := (newline? (s.drop 3)).getD (s.drop 3)

/-- Reads a one-line string of either kind. -/
def readLineString : Reader String
  | [] => none
  | c :: r =>
    let body :=
      if c = '"' then readBasicAfter 0 r else if c = '\x27' then readLiteral r else none
    body.map fun (text, r) => (String.ofList text, r)

/-- Reads a string of any kind. -/
def readString : Reader String := fun s =>
  if opensTripled '"' s then
    (readMultiBasicAfter 0 (behindTripled s)).map fun (text, r) => (String.ofList text, r)
  else if opensTripled '\x27' s then
    (readMultiLiteral (behindTripled s)).map fun (text, r) => (String.ofList text, r)
  else readLineString s

/-! ## Keys -/

/-- A character of a key without quotes. -/
def isBareKeyChar (c : Char) : Bool :=
  c.isDigit || ('a' ≤ c && c ≤ 'z') || ('A' ≤ c && c ≤ 'Z') || c = '-' || c = '_'

/-- Reads one part of a key. -/
def readKeyPart : Reader String := fun s =>
  let bare := s.takeWhile isBareKeyChar
  if bare = [] then readLineString s
  else some (String.ofList bare, s.dropWhile isBareKeyChar)

/-- Reads the parts of a key, at most `n` of them, with points in between. -/
def readKeyParts : (n : Nat) → Reader (List String)
  | 0, _ => none
  | n + 1, s => do
    let (part, s) ← readKeyPart (skipSpaces s)
    match skipSpaces s with
    | '.' :: r =>
      let (parts, r) ← readKeyParts n r
      some (part :: parts, r)
    | r => some ([part], r)

/-- How many parts a key may have, and how deep values may be nested. -/
def deepest : Nat := 79

/-- Reads a key with the spaces around it. -/
def readKey : Reader (List String) := readKeyParts deepest

/-! ## Numbers -/

/-- Digits at the front of a text, without the underscores between them. An underscore belongs to
them when a digit follows. -/
def cutDigits (isDigit : Char → Bool) : List Char → List Char × List Char
  | [] => ([], [])
  | c :: r =>
    if isDigit c then
      let (digits, rest) := cutDigits isDigit r
      (c :: digits, rest)
    else if c = '_' ∧ r.head?.any isDigit then cutDigits isDigit r
    else ([], c :: r)

/-- Reads digits, of which the first must not be an underscore. -/
def readDigitRun (isDigit : Char → Bool) : Reader (List Char) := fun s =>
  if s.head?.any isDigit then some (cutDigits isDigit s) else none

/-- Reads a whole number without leading zeros, given as its sign and its digits. -/
def readWhole : Reader (Bool × List Char) := fun s =>
  let (negative, s) := Binary64.cutSign s
  match s with
  | '0' :: r => some ((negative, ['0']), r)
  | s => (readDigitRun Char.isDigit s).map fun (digits, r) => ((negative, digits), r)

/-- Reads the digits behind a point; without a point there are none. -/
def readFractionDigits : Reader (List Char)
  | '.' :: r => readDigitRun Char.isDigit r
  | s => some ([], s)

/-- Reads an exponent; without a letter in front it is zero. -/
def readExponent : Reader Int
  | [] => some (0, [])
  | c :: r =>
    if c = 'e' ∨ c = 'E' then
      let (negative, s) := Binary64.cutSign r
      (readDigitRun Char.isDigit s).map fun (digits, r) =>
        (if negative then -(Binary64.digitsValue digits : Int) else Binary64.digitsValue digits, r)
    else some (0, c :: r)

/-- Whether a point or an exponent lies ahead. -/
def marksDecimal (s : List Char) : Bool := s.head?.any fun c => c = '.' || c = 'e' || c = 'E'

/-- Reads a number with a point, an exponent or both. One that is too large is refused, though not
one that is too far below zero. -/
def readDecimal : Reader Binary64 := fun s => do
  let ((negative, whole), s) ← readWhole s
  if marksDecimal s then
    let (fraction, s) ← readFractionDigits s
    let (exponent, s) ← readExponent s
    let x := Binary64.ofDecimal negative (Binary64.digitsValue (whole ++ fraction))
      (exponent - fraction.length)
    if x = .infinite false then none else some (x, s)
  else none

/-- What follows a given word. -/
def skipWord? (word : String) (s : List Char) : Option (List Char) :=
  if word.toList.isPrefixOf s then some (s.drop word.toList.length) else none

/-- Reads infinity or the value that is not a number, with an optional sign. -/
def readSpecial : Reader Binary64 := fun s =>
  let (negative, s) := Binary64.cutSign s
  match skipWord? "inf" s with
  | some r => some (.infinite negative, r)
  | none => (skipWord? "nan" s).map fun r => (.nan, r)

/-- Reads digits behind a two-character mark that names their base. -/
def readInBase (mark : String) (base : Nat) (isDigit : Char → Bool) : Reader Int := fun s => do
  let r ← skipWord? mark s
  let (digits, r) ← readDigitRun isDigit r
  some (valueInBase base digits, r)

/-- Whether a whole number fits into 64 bits with a sign. -/
def fitsInteger (n : Int) : Bool := Int64.minValue.toInt ≤ n && n ≤ Int64.maxValue.toInt

/-- Reads a whole number in any base. -/
def readInteger : Reader Int := fun s => do
  let (n, r) ← (readInBase "0x" 16 isHexDigit s).or <|
    (readInBase "0o" 8 (fun c => '0' ≤ c && c ≤ '7') s).or <|
    (readInBase "0b" 2 (fun c => c = '0' || c = '1') s).or <|
    (readWhole s).map fun ((negative, digits), r) =>
      (if negative then -(Binary64.digitsValue digits : Int) else Binary64.digitsValue digits, r)
  if fitsInteger n then some (n, r) else none

/-! ## Values without parts -/

/-- Turns what a reader finds into a value. -/
def readAs {α : Type} (make : α → Value) (read : Reader α) : Reader Value := fun s =>
  (read s).map fun (found, r) => (make found, r)

/-- Reads a truth value. -/
def readBoolean : Reader Bool := fun s =>
  ((skipWord? "true" s).map fun r => (true, r)).or
    ((skipWord? "false" s).map fun r => (false, r))

/-- Reads a value that is neither array nor table. Of the readings of a number the first that
succeeds counts. -/
def readScalar : Reader Value := fun s =>
  (readAs .string readString s).or <|
    (readAs .boolean readBoolean s).or <|
    (readAs .datetime readDateTime s).or <|
    (readAs .float readDecimal s).or <|
    (readAs .float readSpecial s).or <|
    readAs .integer readInteger s

end SessionPlan.Toml
