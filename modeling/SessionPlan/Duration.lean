/-
Durations: seconds and nanoseconds.

A number of seconds becomes a duration by rounding its exact value to the nearest nanosecond, ties
to the even one. A number below zero has no duration, nor has one whose seconds do not fit into 64
bits. Back again, seconds and nanoseconds are rounded separately and their sum once more.
-/
import SessionPlan.Binary64

set_option autoImplicit false

namespace SessionPlan

/-- How many nanoseconds a second has. -/
def nanosecondsPerSecond : Nat := 1000000000

/-- A length of time. -/
structure Duration where
  seconds : UInt64
  nanoseconds : Nat
  nanoseconds_lt : nanoseconds < nanosecondsPerSecond
deriving DecidableEq

namespace Duration

/-- The nanoseconds in a magnitude of seconds, rounded to the nearest. -/
def nanosecondsOfRank (rank : Nat) : Nat :=
  Binary64.roundHalfEven (Binary64.units rank * nanosecondsPerSecond) Binary64.unitsPerOne

/-- The duration of so many nanoseconds. -/
def ofNanoseconds? (total : Nat) : Option Duration :=
  if total / nanosecondsPerSecond < UInt64.size then
    some ⟨UInt64.ofNat (total / nanosecondsPerSecond), total % nanosecondsPerSecond,
      Nat.mod_lt total (by decide)⟩
  else none

/-- The duration of a number of seconds. -/
def ofSeconds? : Binary64 → Option Duration
  | .nan | .infinite _ => none
  | .finite negative rank =>
    if negative && rank.val ≠ 0 then none else ofNanoseconds? (nanosecondsOfRank rank.val)

/-- The number of seconds in a duration. -/
def toSeconds (d : Duration) : Binary64 :=
  let whole := Binary64.rankOfRatio (d.seconds.toNat * Binary64.unitsPerOne) 1
  let fraction :=
    Binary64.rankOfRatio (d.nanoseconds * Binary64.unitsPerOne) nanosecondsPerSecond
  Binary64.ofRank false (Binary64.rankOfRatio (Binary64.units whole + Binary64.units fraction) 1)

end Duration

end SessionPlan
