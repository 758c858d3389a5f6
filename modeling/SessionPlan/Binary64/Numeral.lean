/-
Reading a double-precision number from text.

A numeral is an optional sign, digits with an optional point (digits on at least one side of it)
and an optional decimal exponent; the words `inf`, `infinity` and `nan` in any case stand in for
the digits. Nothing else is read: no white space, no separators between digits, no other base. The
value is the exact decimal rounded once.
-/
import SessionPlan.Binary64

set_option autoImplicit false

namespace SessionPlan.Binary64

/-- A sign, if one is in front, and the rest of the text. -/
def cutSign : List Char → Bool × List Char
  | '-' :: r => (true, r)
  | '+' :: r => (false, r)
  | s => (false, s)

/-- The value of a sequence of decimal digits. -/
def digitsValue (digits : List Char) : Nat := Nat.ofDigitChars 10 digits 0

/-- The decimal exponent that ends a numeral: nothing, or the letter `e`, an optional sign and at
least one digit. -/
def readExponent? : List Char → Option Int
  | [] => some 0
  | c :: r =>
    let (negative, digits) := cutSign r
    if (c = 'e' ∨ c = 'E') ∧ digits ≠ [] ∧ digits.all Char.isDigit then
      some (if negative then -(digitsValue digits : Int) else digitsValue digits)
    else none

/-- The number that digits with an optional point and an optional exponent stand for. -/
def readDigits? (negative : Bool) (s : List Char) : Option Binary64 :=
  let whole := s.takeWhile Char.isDigit
  let afterWhole := s.dropWhile Char.isDigit
  let (fraction, afterFraction) :=
    match afterWhole with
    | '.' :: r => (r.takeWhile Char.isDigit, r.dropWhile Char.isDigit)
    | r => ([], r)
  if whole = [] ∧ fraction = [] then none
  else
    (readExponent? afterFraction).map fun exponent =>
      ofDecimal negative (digitsValue (whole ++ fraction)) (exponent - fraction.length)

/-- The number that a numeral stands for; none if the text is no numeral. -/
def ofNumeral? (s : List Char) : Option Binary64 :=
  let (negative, r) := cutSign s
  let word := String.ofList (r.map Char.toLower)
  if word = "nan" then some .nan
  else if word = "inf" ∨ word = "infinity" then some (.infinite negative)
  else readDigits? negative r

end SessionPlan.Binary64
