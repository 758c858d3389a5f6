/-
Percent-encoded text.

A percent sign and two hexadecimal digits, of either case, stand for one byte; a percent sign that
is not followed by two digits stands for itself. The form encoding of query fields adds one rule:
a plus sign stands for a space, and it is turned into one **before** percent-decoding, so that an
encoded plus sign stays a plus sign.

The encoder keeps letters, digits and `-`, `.`, `_`, `~`, and writes every other byte as a percent
sign and two upper-case digits. The form encoder keeps the asterisk but not the tilde, and writes a
space as a plus sign.
-/
import SessionPlan.Text.Utf8

set_option autoImplicit false

namespace SessionPlan.Text.Percent

/-- The value of a hexadecimal digit, given as an ASCII byte. -/
def hexValue? (b : UInt8) : Option UInt8 :=
  if 0x30 ≤ b && b ≤ 0x39 then some (b - 0x30)
  else if 0x41 ≤ b && b ≤ 0x46 then some (b - 0x37)
  else if 0x61 ≤ b && b ≤ 0x66 then some (b - 0x57)
  else none

/-- The byte that two hexadecimal digits name. -/
def escaped? (b c : UInt8) : Option UInt8 :=
  match hexValue? b, hexValue? c with
  | some high, some low => some (high * 16 + low)
  | _, _ => none

/-- The bytes that a percent-encoded byte sequence stands for. -/
def decodeBytes : List UInt8 → List UInt8
  | a :: b :: c :: r =>
    if a = 0x25 then
      match escaped? b c with
      | some byte => byte :: decodeBytes r
      | none => a :: decodeBytes (b :: c :: r)
    else a :: decodeBytes (b :: c :: r)
  | short => short

/-- The text that a percent-encoded text stands for; none if its bytes are not UTF-8. -/
def decode? (s : List Char) : Option (List Char) :=
  Utf8.decode? (decodeBytes (Utf8.encode s))

/-- The text that a form-encoded key or value stands for. Every text has one: a byte sequence that
is not UTF-8 is read leniently. -/
def decodeForm (s : List Char) : List Char :=
  Utf8.decodeLenient (decodeBytes ((Utf8.encode s).map fun b => if b = 0x2B then 0x20 else b))

/-! ## Encoding -/

/-- The bytes that stand for themselves in an encoded text. -/
def isUnreserved (b : UInt8) : Bool :=
  (0x41 ≤ b && b ≤ 0x5A) || (0x61 ≤ b && b ≤ 0x7A) || (0x30 ≤ b && b ≤ 0x39)
    || b = 0x2D || b = 0x2E || b = 0x5F || b = 0x7E

/-- An upper-case hexadecimal digit. -/
def hexDigit (n : Nat) : Char := Char.ofNat (if n < 10 then 0x30 + n else 0x37 + n)

/-- One byte of an encoded text. -/
def encodeByte (b : UInt8) : List Char :=
  if isUnreserved b then [Char.ofNat b.toNat]
  else ['%', hexDigit (b.toNat / 16), hexDigit (b.toNat % 16)]

/-- A text with every byte outside the unreserved ones percent-encoded. -/
def encode (s : List Char) : List Char := (Utf8.encode s).flatMap encodeByte

/-- One byte of a form-encoded text. -/
def encodeFormByte (b : UInt8) : List Char :=
  if b = 0x20 then ['+']
  else if b = 0x2A then ['*']
  else if b = 0x7E then ['%', '7', 'E']
  else encodeByte b

/-- A text in the form encoding of query fields. -/
def encodeForm (s : List Char) : List Char := (Utf8.encode s).flatMap encodeFormByte

end SessionPlan.Text.Percent
