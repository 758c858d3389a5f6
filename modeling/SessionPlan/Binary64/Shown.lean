/-
How a double-precision number is shown in a message.

The digits are the shortest ones that read back. They are set with a point and at least one decimal
place; a magnitude below `10⁻⁴` or from `10¹⁶` on is set with an exponent instead, and then without
a point if it has a single digit.
-/
import SessionPlan.Binary64.Shortest

set_option autoImplicit false

namespace SessionPlan.Binary64

/-- Which decimal exponents are set without an exponent: those of the leading digit, from `lowest`
on and below `beyond`. -/
structure Layout where
  lowest : Int
  beyond : Int

/-- The layout of messages. -/
def messageLayout : Layout := ⟨-4, 16⟩

/-- Digits with a point after the first `places` of them; zeros fill up on either side, and at least
one digit stands on each side of the point. -/
def positional (digits : List Char) (places : Int) : List Char :=
  if places ≤ 0 then '0' :: '.' :: List.replicate (-places).toNat '0' ++ digits
  else if digits.length ≤ places then
    digits ++ List.replicate (places.toNat - digits.length) '0' ++ ['.', '0']
  else digits.take places.toNat ++ '.' :: digits.drop places.toNat

/-- Digits with a point after the first of them, if there are more, and an exponent. -/
def scientific (digits : List Char) (exponent : Int) : List Char :=
  (match digits with
    | [] => []
    | [d] => [d]
    | d :: r => d :: '.' :: r)
  ++ 'e' :: (toString exponent).toList

/-- A decimal, set as a layout asks. -/
def Decimal.set (d : Decimal) (layout : Layout) : List Char :=
  let digits := Nat.toDigits 10 d.coefficient
  let leading := d.exponent + digits.length - 1
  if d.coefficient = 0 ∨ (layout.lowest ≤ leading ∧ leading < layout.beyond) then
    positional digits (leading + 1)
  else scientific digits leading

/-- A number as messages show it. -/
def shown : Binary64 → String
  | .nan => "NaN"
  | .infinite negative => if negative then "-inf" else "inf"
  | .finite negative rank =>
    String.ofList ((if negative then ['-'] else []) ++ (shortest rank.val).set messageLayout)

end SessionPlan.Binary64
