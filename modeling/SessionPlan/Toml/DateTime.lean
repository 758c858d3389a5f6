/-
Dates and times of a document.

A date-time has a date, a time and an offset, some of which may be missing: a local date-time has no
offset, and there are dates without a time and times without a date. The date must exist in the
calendar; a minute may have a leap second. Fractions of a second are kept to the nanosecond, and
digits beyond are dropped.
-/
import SessionPlan.Toml.Reader

set_option autoImplicit false

namespace SessionPlan.Toml

/-- A day of the calendar. -/
structure Date where
  year : Nat
  month : Nat
  day : Nat
deriving DecidableEq

/-- A time of day. -/
structure Time where
  hour : Nat
  minute : Nat
  second : Nat
  nanosecond : Nat
deriving DecidableEq

/-- The distance of local time from universal time. -/
inductive Offset where
  | utc
  /-- Minutes ahead of universal time, or behind it if negative. -/
  | minutes (ahead : Int)
deriving DecidableEq

/-- A date, a time or both. -/
structure DateTime where
  date : Option Date
  time : Option Time
  offset : Option Offset
deriving DecidableEq

/-! ## The calendar -/

/-- Whether a year has a 29th of February. -/
def isLeapYear (year : Nat) : Bool := year % 4 = 0 && (year % 100 ≠ 0 || year % 400 = 0)

/-- The number of days in a month. -/
def daysInMonth (year month : Nat) : Nat :=
  if month = 2 then if isLeapYear year then 29 else 28
  else if month = 4 ∨ month = 6 ∨ month = 9 ∨ month = 11 then 30
  else 31

/-- Whether a date exists. -/
def Date.isValid (d : Date) : Bool :=
  1 ≤ d.month && d.month ≤ 12 && 1 ≤ d.day && d.day ≤ daysInMonth d.year d.month

/-! ## Reading -/

/-- Reads exactly `n` decimal digits. -/
def readDigits (n : Nat) : Reader Nat := fun s =>
  let digits := s.take n
  if digits.length = n ∧ digits.all Char.isDigit then
    some (Nat.ofDigitChars 10 digits 0, s.drop n)
  else none

/-- What follows one given character. -/
def skipChar? (c : Char) : List Char → Option (List Char)
  | [] => none
  | d :: r => if d = c then some r else none

/-- Reads a date. -/
def readDate : Reader Date := fun s => do
  let (year, s) ← readDigits 4 s
  let s ← skipChar? '-' s
  let (month, s) ← readDigits 2 s
  let s ← skipChar? '-' s
  let (day, s) ← readDigits 2 s
  let date : Date := ⟨year, month, day⟩
  if date.isValid then some (date, s) else none

/-- Reads a fraction of a second as nanoseconds; without a point in front there is none. -/
def readFraction : Reader Nat
  | '.' :: r =>
    let digits := r.takeWhile Char.isDigit
    let kept := digits.take 9
    if digits = [] then none
    else some (Nat.ofDigitChars 10 kept 0 * Nat.pow 10 (9 - kept.length), r.dropWhile Char.isDigit)
  | s => some (0, s)

/-- Reads a time of day. Any minute may have a sixty-first second. -/
def readTime : Reader Time := fun s => do
  let (hour, s) ← readDigits 2 s
  let s ← skipChar? ':' s
  let (minute, s) ← readDigits 2 s
  let s ← skipChar? ':' s
  let (second, s) ← readDigits 2 s
  let (nanosecond, s) ← readFraction s
  if hour ≤ 23 ∧ minute ≤ 59 ∧ second ≤ 60 then
    some (⟨hour, minute, second, nanosecond⟩, s)
  else none

/-- Reads the hours and minutes of an offset as minutes. -/
def readDistance : Reader Nat := fun s => do
  let (hours, s) ← readDigits 2 s
  let s ← skipChar? ':' s
  let (minutes, s) ← readDigits 2 s
  if hours ≤ 23 ∧ minutes ≤ 59 then some (hours * 60 + minutes, s) else none

/-- Reads an offset. -/
def readOffset : Reader Offset
  | [] => none
  | c :: r =>
    if c = 'Z' ∨ c = 'z' then some (.utc, r)
    else if c = '+' then (readDistance r).map fun (distance, r) => (.minutes distance, r)
    else if c = '-' then (readDistance r).map fun (distance, r) => (.minutes (-distance), r)
    else none

/-- A reader that may also find nothing. -/
def optionally {α : Type} (read : Reader α) : Reader (Option α) := fun s =>
  match read s with
  | some (value, r) => some (some value, r)
  | none => some (none, s)

/-- What follows the character between a date and a time. -/
def skipTimeMark? : List Char → Option (List Char)
  | [] => none
  | c :: r => if c = 'T' ∨ c = 't' ∨ c = ' ' then some r else none

/-- Reads what may follow a date: a time, and an offset behind it. -/
def readTimeOfDate : Reader (Time × Option Offset) := fun s => do
  let s ← skipTimeMark? s
  let (time, s) ← readTime s
  let (offset, s) ← optionally readOffset s
  some ((time, offset), s)

/-- Reads a date, with a time if one follows, or else a time alone. -/
def readDateTime : Reader DateTime := fun s =>
  match readDate s with
  | some (date, s) => do
    let (time, s) ← optionally readTimeOfDate s
    some (⟨some date, time.map Prod.fst, time.bind Prod.snd⟩, s)
  | none => do
    let (time, s) ← readTime s
    some (⟨none, some time, none⟩, s)

/-- The date-time that the whole of a text spells. -/
def DateTime.ofText? (s : List Char) : Option DateTime :=
  match readDateTime s with
  | some (found, []) => some found
  | _ => none

/-! ## Writing -/

/-- A number with zeros in front up to a width. -/
def padded (width n : Nat) : List Char :=
  let digits := Nat.toDigits 10 n
  List.replicate (width - digits.length) '0' ++ digits

/-- A date as written. -/
def Date.shown (d : Date) : List Char :=
  padded 4 d.year ++ '-' :: padded 2 d.month ++ '-' :: padded 2 d.day

/-- A time as written; the fraction has no zeros at its end. -/
def Time.shown (t : Time) : List Char :=
  let fraction := ((padded 9 t.nanosecond).reverse.dropWhile (· = '0')).reverse
  padded 2 t.hour ++ ':' :: padded 2 t.minute ++ ':' :: padded 2 t.second
    ++ (if fraction = [] then [] else '.' :: fraction)

/-- An offset as written. -/
def Offset.shown : Offset → List Char
  | .utc => ['Z']
  | .minutes ahead =>
    (if ahead < 0 then '-' else '+') :: padded 2 (ahead.natAbs / 60)
      ++ ':' :: padded 2 (ahead.natAbs % 60)

/-- A date-time as written, with the letter T between date and time. -/
def DateTime.shown (d : DateTime) : String :=
  String.ofList ((d.date.map Date.shown).getD []
    ++ (if d.date.isSome && d.time.isSome then ['T'] else [])
    ++ (d.time.map Time.shown).getD []
    ++ (d.offset.map Offset.shown).getD [])

end SessionPlan.Toml
