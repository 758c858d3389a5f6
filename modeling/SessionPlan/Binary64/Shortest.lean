/-
The shortest decimal digits of a double-precision magnitude.

The decimals that round to a magnitude fill an interval around it, which reaches halfway to the
neighbour on each side and includes its ends when the rank is even. Among the decimal grids, the
multiples of a power of ten, the **coarsest** one with a point in that interval gives the fewest
digits. If any point of a grid lies in the interval then one of the two points next to the
magnitude does, so only those two are tested; when both lie in it the nearer is taken, and the
larger when they are equally near.

All comparisons are between natural numbers, in units of `2⁻¹⁰⁷⁶`, a quarter of the format's own
unit: the interval's ends are whole numbers of those.
-/
import SessionPlan.Binary64

set_option autoImplicit false

namespace SessionPlan.Binary64

/-- The interval of decimals that round to a magnitude, in quarter units. -/
structure Interval where
  low : Nat
  centre : Nat
  high : Nat
  /-- Whether the two ends belong to the interval. -/
  closed : Bool

/-- The interval around the magnitude with a positive rank. Right above a power of two the
magnitudes below lie twice as close as those above. -/
def Interval.ofRank (rank : Nat) : Interval :=
  let centre := 4 * units rank
  let step := 1 <<< doublings rank
  let below := if rank % binade = 0 ∧ 2 * binade ≤ rank then step else 2 * step
  ⟨centre - below, centre, centre + 2 * step, rank % 2 = 0⟩

/-- A decimal grid: its points are the multiples of `10 ^ exponent`. In quarter units, scaled by
`scale`, consecutive points lie `width` apart; the scale makes both whole. -/
structure Grid where
  exponent : Int
  scale : Nat
  width : Nat

/-- The exponent of the finest grid that is ever needed, that of the smallest magnitude, with its
sign changed. -/
def finestGrid : Nat := 324

/-- The `n`-th grid, counted from the finest one. -/
def Grid.at (n : Nat) : Grid where
  exponent := n - finestGrid
  scale := Nat.pow 10 (finestGrid - n)
  width := 4 * unitsPerOne * Nat.pow 10 (n - finestGrid)

/-- Whether the `k`-th point of a grid lies in an interval. -/
def Interval.holds (i : Interval) (g : Grid) (k : Nat) : Bool :=
  if i.closed then i.low * g.scale ≤ k * g.width && k * g.width ≤ i.high * g.scale
  else i.low * g.scale < k * g.width && k * g.width < i.high * g.scale

/-- The point of a grid that lies in an interval, the one nearest to its centre; of two equally
near ones the larger. -/
def Interval.nearest? (i : Interval) (g : Grid) : Option Nat :=
  let k := i.centre * g.scale / g.width
  let rest := i.centre * g.scale % g.width
  match i.holds g k, i.holds g (k + 1) with
  | true, true => some (if 2 * rest < g.width then k else k + 1)
  | true, false => some k
  | false, true => some (k + 1)
  | false, false => none

/-- A decimal: a whole number times a power of ten. -/
structure Decimal where
  coefficient : Nat
  exponent : Int
deriving DecidableEq

/-- The decimal on the coarsest grid, among the first `n`, that has a point in the interval. -/
def Interval.coarsest (i : Interval) : (n : Nat) → Decimal
  | 0 => ⟨0, 0⟩
  | n + 1 =>
    match i.nearest? (Grid.at n) with
    | some k => ⟨k, (Grid.at n).exponent⟩
    | none => i.coarsest n

/-- How many grids there are between the finest and the one whose second point lies above every
magnitude. -/
def gridCount : Nat := finestGrid + 310

/-- The shortest decimal that rounds to the magnitude with the given rank. -/
def shortest (rank : Nat) : Decimal :=
  if rank = 0 then ⟨0, 0⟩ else (Interval.ofRank rank).coarsest gridCount

end SessionPlan.Binary64
