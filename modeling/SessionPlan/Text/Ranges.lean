/-
Sets of code points, written as lists of closed ranges.

A table of a character property is such a list in ascending order. Nothing depends on the order,
though: a code point is in the set when any of the ranges holds it.
-/
set_option autoImplicit false

namespace SessionPlan.Text

/-- Closed ranges of code points. -/
abbrev Ranges := List (Nat × Nat)

namespace Ranges

/-- Whether a code point lies in one of the ranges. -/
def contains (ranges : Ranges) (n : Nat) : Bool :=
  ranges.any fun (low, high) => low ≤ n && n ≤ high

/-- **Membership.** A code point is in the set when some range holds it. -/
theorem contains_iff {ranges : Ranges} {n : Nat} :
    ranges.contains n = true ↔ ∃ r ∈ ranges, r.1 ≤ n ∧ n ≤ r.2 := by
  simp [contains]

end Ranges

end SessionPlan.Text
