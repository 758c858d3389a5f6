/-
Double-precision numbers (binary64), as exact data.

The finite magnitudes of the format are natural multiples of one **unit**, `2⁻¹⁰⁷⁴`, the smallest
positive one. A magnitude is named by its **rank**, its place in ascending order. Rank `r` encodes
a 52-bit field and a count of doublings, so `units r` below is the number of units it stands for,
and the ranks are exactly the 63 low bits of the interchange format.

Every conversion into the format goes through one function, `rankOfRatio`: it rounds an exact
quotient of natural numbers to the nearest magnitude, and a quotient halfway between two of them
to the one with the even rank. Whole numbers, decimal numerals and sums are all such quotients, so
they round alike by construction, and no arithmetic here is approximate.
-/
set_option autoImplicit false

namespace SessionPlan

/-- How many magnitudes there are from a power of two up to its double. -/
def Binary64.binade : Nat := 1 <<< 52

/-- The rank one past the largest finite magnitude. -/
def Binary64.infiniteRank : Nat := 2047 * binade

/-- A binary64 number. All the NaNs of the interchange format are one value here. -/
inductive Binary64 where
  | nan
  | infinite (negative : Bool)
  | finite (negative : Bool) (rank : Fin Binary64.infiniteRank)
deriving DecidableEq

namespace Binary64

/-! ## Ranks and units -/

/-- The significand of a rank, at most 53 bits: the field itself at the bottom of the range, the
field with a leading one above it. -/
def significand (rank : Nat) : Nat :=
  if rank < binade then rank else binade + rank % binade

/-- How often the significand of a rank is doubled. -/
def doublings (rank : Nat) : Nat := rank / binade - 1

/-- The magnitude with the given rank, counted in units of `2⁻¹⁰⁷⁴`. -/
def units (rank : Nat) : Nat := significand rank <<< doublings rank

/-- The units in the number one. -/
def unitsPerOne : Nat := 1 <<< 1074

/-! ## Rounding -/

/-- The whole number nearest to `num / den`, the even one if two are equally near. -/
def roundHalfEven (num den : Nat) : Nat :=
  if 2 * (num % den) < den then num / den
  else if den < 2 * (num % den) then num / den + 1
  else num / den + num / den % 2

/-- The rank nearest to `num / den` units. The quotient is cut to 53 bits by halving it
`doublings` times; when rounding carries into a 54th bit, the sum below is still the right rank,
since the ranks of consecutive magnitudes are consecutive. -/
def rankOfRatio (num den : Nat) : Nat :=
  let halvings := (num / den).log2 - 52
  halvings * binade + roundHalfEven num (den <<< halvings)

/-- The number with a sign and a rank. Ranks past the last finite one mean infinity. -/
def ofRank (negative : Bool) (rank : Nat) : Binary64 :=
  if h : rank < infiniteRank then .finite negative ⟨rank, h⟩ else .infinite negative

/-- The number nearest to `± num / den`. -/
def ofRatio (negative : Bool) (num den : Nat) : Binary64 :=
  ofRank negative (rankOfRatio (num * unitsPerOne) den)

/-- The number nearest to a whole number. -/
def ofInt (n : Int) : Binary64 := ofRatio (n < 0) n.natAbs 1

/-- The number nearest to `± digits · 10 ^ exponent`.

Numerals far outside the range are settled by their order of magnitude: from `10³¹⁰` on everything
rounds to infinity, and below `10⁻³³⁰` everything rounds to zero. -/
def ofDecimal (negative : Bool) (digits : Nat) (exponent : Int) : Binary64 :=
  let places := (Nat.toDigits 10 digits).length
  if digits = 0 then ofRank negative 0
  else if exponent + places > 310 then .infinite negative
  else if exponent + places < -330 then ofRank negative 0
  else if 0 ≤ exponent then ofRatio negative (digits * Nat.pow 10 exponent.toNat) 1
  else ofRatio negative digits (Nat.pow 10 (-exponent).toNat)

/-! ## Order -/

/-- Whether a number is greater than zero. NaN is not. -/
def isPositive : Binary64 → Bool
  | .nan => false
  | .infinite negative => !negative
  | .finite negative rank => !negative && rank.val ≠ 0

/-! ## The interchange format -/

/-- The highest of 64 bits. -/
def signBit : Nat := 1 <<< 63

/-- The number that 64 bits encode: a sign bit above the rank, and every rank past that of infinity
a NaN. -/
def ofBits (bits : UInt64) : Binary64 :=
  let negative : Bool := signBit ≤ bits.toNat
  let rank := bits.toNat % signBit
  if infiniteRank < rank then .nan else ofRank negative rank

/-- The 64 bits that encode a number; for NaN the quiet one without sign or payload. -/
def toBits : Binary64 → UInt64
  | .nan => 0x7FF8000000000000
  | .infinite negative => UInt64.ofNat ((if negative then signBit else 0) + infiniteRank)
  | .finite negative rank => UInt64.ofNat ((if negative then signBit else 0) + rank.val)

end Binary64

end SessionPlan
