/-
UTF-8: texts as sequences of bytes, and back.

Reading goes through **one scanner**, which cuts a byte sequence into characters and faults. A
fault is a longest run of bytes that begins some character's encoding but is not completed, or a
single byte that begins none. The strict reader refuses a sequence with a fault; the lenient one
shows U+FFFD in its place. Both readers therefore agree wherever the strict one succeeds.
-/
set_option autoImplicit false

namespace SessionPlan.Text.Utf8

/-- The bytes of a text. -/
def encode (s : List Char) : List UInt8 := s.flatMap String.utf8EncodeChar

/-- Whether a byte may continue a character: its two high bits are `10`. -/
def isContinuation (b : UInt8) : Bool := 0x80 ≤ b && b ≤ 0xBF

/-- The six low bits of a continuation byte. -/
def payload (b : UInt8) : Nat := b.toNat % 0x40

/-- Which second bytes may follow the first byte of a three-byte character. The bounds after `E0`
keep out code points that fit in two bytes, those after `ED` keep out surrogates. -/
def isSecondOfThree (a b : UInt8) : Bool :=
  if a = 0xE0 then 0xA0 ≤ b && b ≤ 0xBF
  else if a = 0xED then 0x80 ≤ b && b ≤ 0x9F
  else isContinuation b

/-- Which second bytes may follow the first byte of a four-byte character. The bounds after `F0`
keep out code points that fit in three bytes, those after `F4` keep out what lies above U+10FFFF. -/
def isSecondOfFour (a b : UInt8) : Bool :=
  if a = 0xF0 then 0x90 ≤ b && b ≤ 0xBF
  else if a = 0xF4 then 0x80 ≤ b && b ≤ 0x8F
  else isContinuation b

/-- The two-byte character that `a` begins, or a fault, and how many of the bytes that follow
belong to it. -/
def frontOfTwo (a : UInt8) : List UInt8 → Option Char × Nat
  | [] => (none, 0)
  | b :: _ =>
    if isContinuation b then (some (Char.ofNat (a.toNat % 0x20 * 0x40 + payload b)), 1)
    else (none, 0)

/-- The three-byte character that `a` begins, or a fault, and how many of the bytes that follow
belong to it. -/
def frontOfThree (a : UInt8) : List UInt8 → Option Char × Nat
  | [] => (none, 0)
  | [b] => (none, if isSecondOfThree a b then 1 else 0)
  | b :: c :: _ =>
    if !isSecondOfThree a b then (none, 0)
    else if !isContinuation c then (none, 1)
    else (some (Char.ofNat ((a.toNat % 0x10 * 0x40 + payload b) * 0x40 + payload c)), 2)

/-- The four-byte character that `a` begins, or a fault, and how many of the bytes that follow
belong to it. -/
def frontOfFour (a : UInt8) : List UInt8 → Option Char × Nat
  | [] => (none, 0)
  | [b] => (none, if isSecondOfFour a b then 1 else 0)
  | [b, c] => (none, if !isSecondOfFour a b then 0 else if !isContinuation c then 1 else 2)
  | b :: c :: d :: _ =>
    if !isSecondOfFour a b then (none, 0)
    else if !isContinuation c then (none, 1)
    else if !isContinuation d then (none, 2)
    else
      (some (Char.ofNat
        (((a.toNat % 0x08 * 0x40 + payload b) * 0x40 + payload c) * 0x40 + payload d)), 3)

/-- The character that `a` begins in front of the bytes `r`, or `none` for a fault, and how many
bytes of `r` belong to it. -/
def front (a : UInt8) (r : List UInt8) : Option Char × Nat :=
  if a < 0x80 then (some (Char.ofNat a.toNat), 0)
  else if a < 0xC2 then (none, 0)
  else if a < 0xE0 then frontOfTwo a r
  else if a < 0xF0 then frontOfThree a r
  else if a < 0xF5 then frontOfFour a r
  else (none, 0)

/-- Cuts a byte sequence, its first `skipped` bytes left out, into characters and faults. -/
def scanAfter : (skipped : Nat) → List UInt8 → List (Option Char)
  | _, [] => []
  | n + 1, _ :: r => scanAfter n r
  | 0, a :: r => (front a r).1 :: scanAfter (front a r).2 r

/-- Cuts a byte sequence into its characters and faults; `none` stands for a fault. -/
def scan (bytes : List UInt8) : List (Option Char) := scanAfter 0 bytes

/-- The text of a byte sequence without faults. -/
def decode? (bytes : List UInt8) : Option (List Char) := (scan bytes).mapM id

/-- The text of any byte sequence, with U+FFFD for every fault. -/
def decodeLenient (bytes : List UInt8) : List Char := (scan bytes).map (·.getD '\uFFFD')

end SessionPlan.Text.Utf8
