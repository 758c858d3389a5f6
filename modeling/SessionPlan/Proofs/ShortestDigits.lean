/-
The shortest digits read back.

The decimals in the interval around a magnitude are those that are rounded to it: every other
magnitude lies at least as far off as the neighbour on its side, and a decimal at an end of the
interval, halfway to a neighbour, goes to the even one of the two ranks, which is why the ends
belong to the interval of an even rank only. So it does not matter for the value which decimal of
the interval is shown, and the shortest one is one of them: the points of the finest grid lie so
close that each interval has one, and of all grids that do the search takes the coarsest.

The decimals are quotients with a power of ten as their denominator. They are compared with the ends
of the interval by cross products of whole numbers, in quarter units.
-/
import SessionPlan.Binary64.Shortest
import SessionPlan.Proofs.Numerals

set_option autoImplicit false

namespace SessionPlan.Binary64

/-! ## Rounding within an interval -/

/-- A quotient of units lies in an interval. -/
structure Interval.Has (i : Interval) (num den : Nat) : Prop where
  low : i.low * den ≤ 4 * num
  high : 4 * num ≤ i.high * den
  strict : i.closed = false → i.low * den < 4 * num ∧ 4 * num < i.high * den

/-- The step down from a magnitude, doubled. It is half of the step up where a power of two is
left behind. -/
theorem doublings_succ (rank : Nat) :
    (if (rank + 1) % binade = 0 ∧ 2 * binade ≤ rank + 1 then 1 <<< doublings (rank + 1)
      else 2 * 1 <<< doublings (rank + 1)) = 2 * 2 ^ doublings rank := by
  have hbinade : binade = 4503599627370496 := by decide
  rw [Nat.one_shiftLeft]
  split
  next hpower =>
    have hsucc : doublings (rank + 1) = doublings rank + 1 := by
      rw [doublings, doublings]
      rw [hbinade] at hpower ⊢
      omega
    rw [hsucc, Nat.pow_succ, Nat.mul_comm]
  next hpower =>
    have hsame : doublings (rank + 1) = doublings rank := by
      rw [doublings, doublings]
      rw [hbinade] at hpower ⊢
      omega
    rw [hsame]

/-- **The ends of an interval** lie halfway to the neighbours. -/
theorem Interval.ofRank_succ (rank : Nat) :
    ofRank (rank + 1) = ⟨2 * (units rank + units (rank + 1)), 4 * units (rank + 1),
      2 * (units (rank + 1) + units (rank + 2)), (rank + 1) % 2 = 0⟩ := by
  have hup : units (rank + 2) = units (rank + 1) + 2 ^ doublings (rank + 1) := units_succ (rank + 1)
  have hdown : units (rank + 1) = units rank + 2 ^ doublings rank := units_succ rank
  have hlow : 4 * units (rank + 1) - 2 * 2 ^ doublings rank
      = 2 * (units rank + units (rank + 1)) := by omega
  have hhigh : 4 * units (rank + 1) + 2 * 2 ^ doublings (rank + 1)
      = 2 * (units (rank + 1) + units (rank + 2)) := by omega
  unfold ofRank
  dsimp only
  rw [doublings_succ, hlow, Nat.one_shiftLeft, hhigh]

variable {num den rank : Nat}

/-- **Every decimal of the interval** is rounded to its magnitude. -/
theorem rankOfRatio_of_has (hden : 0 < den) (h : (Interval.ofRank (rank + 1)).Has num den) :
    rankOfRatio num den = rank + 1 := by
  obtain ⟨hlow, hhigh, hstrict⟩ := h
  rw [Interval.ofRank_succ] at hlow hhigh hstrict
  obtain ⟨hnear, htie⟩ := rankOfRatio_nearest num hden (rank + 1)
  generalize rankOfRatio num den = nearest at hnear htie ⊢
  simp only [decide_eq_false_iff_not] at hstrict
  rw [Nat.mul_assoc, Nat.add_mul] at hlow hhigh hstrict
  rw [Nat.mul_assoc, Nat.add_mul] at hstrict
  have hbelow := Nat.mul_lt_mul_of_pos_right (units_strictMono (Nat.lt_add_one rank)) hden
  have habove := Nat.mul_lt_mul_of_pos_right
    (units_strictMono (show rank + 1 < rank + 2 by omega)) hden
  unfold Nat.dist at hnear htie
  rcases Nat.lt_trichotomy nearest (rank + 1) with hlt | heq | hgt
  · -- as near as the neighbour below only at the lower end, and that one is odd
    have hfar := Nat.mul_le_mul_right den (units_strictMono.monotone (Nat.le_of_lt_succ hlt))
    have hend : units nearest * den = units rank * den := by omega
    have hrank := units_strictMono.injective (Nat.eq_of_mul_eq_mul_right hden hend)
    have heven := htie (by omega) (by omega)
    omega
  · exact heq
  · -- likewise at the upper end
    have hfar := Nat.mul_le_mul_right den
      (units_strictMono.monotone (show rank + 2 ≤ nearest from hgt))
    have hend : units nearest * den = units (rank + 2) * den := by omega
    have hrank := units_strictMono.injective (Nat.eq_of_mul_eq_mul_right hden hend)
    have heven := htie (by omega) (by omega)
    omega

/-! ## The points of a grid -/

theorem Grid.width_pos (n : Nat) : 0 < (Grid.at n).width :=
  Nat.mul_pos (Nat.mul_pos (by decide) unitsPerOne_pos) (Nat.pow_pos (by decide))

theorem Grid.scale_pos (n : Nat) : 0 < (Grid.at n).scale := Nat.pow_pos (by decide)

namespace Interval

variable {i : Interval} {g : Grid} {k n : Nat}

theorem holds_iff : i.holds g k = true ↔
    i.low * g.scale ≤ k * g.width ∧ k * g.width ≤ i.high * g.scale ∧
      (i.closed = false → i.low * g.scale < k * g.width ∧ k * g.width < i.high * g.scale) := by
  unfold holds
  cases i.closed with
  | true => simp
  | false =>
    simp only [Bool.false_eq_true, if_false, Bool.and_eq_true, decide_eq_true_eq]
    constructor
    · exact fun h => ⟨h.1.le, h.2.le, fun _ => h⟩
    · exact fun h => h.2.2 trivial

/-- The point that is found lies in the interval. -/
theorem holds_of_nearest? (h : i.nearest? g = some k) : i.holds g k = true := by
  unfold nearest? at h
  dsimp only at h
  split at h
  next hlow hhigh =>
    cases h
    split
    next => exact hlow
    next => exact hhigh
  next hlow _ => cases h; exact hlow
  next _ hhigh => cases h; exact hhigh
  next => cases h

/-- **Two points tell.** If no point is found then the grid has none in the interval: a point
farther from the centre than the two that are tested has one of them between itself and the
centre. -/
theorem not_holds_of_nearest? (hlow : i.low < i.centre) (hhigh : i.centre < i.high)
    (hscale : 0 < g.scale) (hwidth : 0 < g.width) (h : i.nearest? g = none) (k : Nat) :
    i.holds g k = false := by
  have hsplit := Nat.div_add_mod' (i.centre * g.scale) g.width
  have hrest := Nat.mod_lt (i.centre * g.scale) hwidth
  have hlow' := Nat.mul_lt_mul_of_pos_right hlow hscale
  have hhigh' := Nat.mul_lt_mul_of_pos_right hhigh hscale
  unfold nearest? at h
  dsimp only at h
  generalize i.centre * g.scale / g.width = q at h hsplit
  have hnext := Nat.add_one_mul q g.width
  split at h
  next => cases h
  next => cases h
  next => cases h
  next hq hq' =>
    rw [Bool.eq_false_iff, ne_eq, holds_iff]
    rw [Bool.eq_false_iff, ne_eq, holds_iff] at hq hq'
    rintro ⟨hk, hk', hstrict⟩
    rcases Nat.lt_or_ge q k with hlt | hge
    · -- the upper one lies between the centre and this point
      have hbetween : (q + 1) * g.width ≤ k * g.width := Nat.mul_le_mul_right _ hlt
      exact hq' ⟨by omega, by omega, fun hopen => by have := hstrict hopen; omega⟩
    · have hbetween : k * g.width ≤ q * g.width := Nat.mul_le_mul_right _ hge
      exact hq ⟨by omega, by omega, fun hopen => by have := hstrict hopen; omega⟩

/-- **The search from the coarse end.** If any of the first `n` grids has a point then the search
comes to a decimal in the interval, and no coarser grid has one. -/
theorem coarsest_spec (hlow : i.low < i.centre) (hhigh : i.centre < i.high)
    (hfound : ∃ m < n, i.nearest? (Grid.at m) ≠ none) :
    ∃ m < n, ∃ k, i.coarsest n = ⟨k, (Grid.at m).exponent⟩ ∧ i.holds (Grid.at m) k = true ∧
      ∀ coarser < n, m < coarser → ∀ point, i.holds (Grid.at coarser) point = false := by
  induction n with
  | zero =>
    obtain ⟨m, hm, -⟩ := hfound
    exact absurd hm (Nat.not_lt_zero m)
  | succ n ih =>
    rw [coarsest]
    split
    next k hk =>
      refine ⟨n, Nat.lt_succ_self n, k, rfl, holds_of_nearest? hk, ?_⟩
      intro coarser hcoarser hlt
      omega
    next hnone =>
      have hrest : ∃ m < n, i.nearest? (Grid.at m) ≠ none := by
        obtain ⟨m, hm, hne⟩ := hfound
        refine ⟨m, Nat.lt_of_le_of_ne (Nat.le_of_lt_succ hm) ?_, hne⟩
        rintro rfl
        exact hne hnone
      obtain ⟨m, hm, k, hdecimal, hk, hcoarsest⟩ := ih hrest
      refine ⟨m, Nat.lt_succ_of_lt hm, k, hdecimal, hk, ?_⟩
      intro coarser hcoarser hlt
      rcases Nat.lt_or_eq_of_le (Nat.le_of_lt_succ hcoarser) with hcoarser | rfl
      · exact hcoarsest coarser hcoarser hlt
      · exact not_holds_of_nearest? hlow hhigh (Grid.scale_pos _) (Grid.width_pos _) hnone

/-- The centre of an interval lies between its ends. -/
theorem centre_bounds (rank : Nat) :
    (ofRank (rank + 1)).low < (ofRank (rank + 1)).centre ∧
      (ofRank (rank + 1)).centre < (ofRank (rank + 1)).high := by
  have hbelow : units rank < units (rank + 1) := units_strictMono (Nat.lt_succ_self rank)
  have habove : units (rank + 1) < units (rank + 2) := units_strictMono (Nat.lt_succ_self _)
  rw [ofRank_succ]
  dsimp only
  omega

/-- **The finest grid** has a point in every interval: its points lie less than a quarter unit
apart, and the lower end lies a quarter unit or more below the centre. -/
theorem nearest?_finest (rank : Nat) : (ofRank (rank + 1)).nearest? (Grid.at 0) ≠ none := by
  have hfine : (Grid.at 0).width < (Grid.at 0).scale := by decide +kernel
  have hwidth := Grid.width_pos 0
  obtain ⟨hlow, hhigh⟩ := centre_bounds rank
  generalize ofRank (rank + 1) = i at hlow hhigh ⊢
  generalize Grid.at 0 = g at hfine hwidth ⊢
  have hsplit := Nat.div_add_mod' (i.centre * g.scale) g.width
  have hrest := Nat.mod_lt (i.centre * g.scale) hwidth
  have hlow' := Nat.mul_le_mul_right g.scale (Nat.succ_le_of_lt hlow)
  rw [Nat.succ_mul] at hlow'
  have hscale := Nat.lt_trans hwidth hfine
  have hhigh' := Nat.mul_lt_mul_of_pos_right hhigh hscale
  intro hnone
  have hholds := not_holds_of_nearest? hlow hhigh hscale hwidth hnone
    (i.centre * g.scale / g.width)
  rw [Bool.eq_false_iff, ne_eq, holds_iff] at hholds
  exact hholds ⟨by omega, by omega, fun _ => ⟨by omega, by omega⟩⟩

/-- A point of a grid is a decimal: its numerator in units, and its denominator. -/
theorem has_of_holds (h : i.holds (Grid.at n) k = true) :
    i.Has (k * 10 ^ (n - finestGrid) * unitsPerOne) (10 ^ (finestGrid - n)) := by
  have hpoint : k * (Grid.at n).width = 4 * (k * 10 ^ (n - finestGrid) * unitsPerOne) := by
    have hwidth : (Grid.at n).width = 4 * unitsPerOne * 10 ^ (n - finestGrid) := rfl
    rw [hwidth]
    ring
  obtain ⟨hlow, hhigh, hstrict⟩ := holds_iff.mp h
  rw [hpoint] at hlow hhigh hstrict
  exact ⟨hlow, hhigh, hstrict⟩

end Interval

/-! ## Shortest decimals -/

/-- **The shortest decimal** of a magnitude lies in its interval, and no coarser grid of those that
are searched has a point there. -/
theorem shortest_spec (rank : Nat) :
    ∃ n < gridCount, ∃ k, shortest (rank + 1) = ⟨k, (n : Int) - finestGrid⟩ ∧
      (Interval.ofRank (rank + 1)).Has (k * 10 ^ (n - finestGrid) * unitsPerOne)
        (10 ^ (finestGrid - n)) ∧
      ∀ coarser < gridCount, n < coarser → ∀ point,
        (Interval.ofRank (rank + 1)).holds (Grid.at coarser) point = false := by
  obtain ⟨hlow, hhigh⟩ := Interval.centre_bounds rank
  have hfound : ∃ m < gridCount, (Interval.ofRank (rank + 1)).nearest? (Grid.at m) ≠ none :=
    ⟨0, by decide, Interval.nearest?_finest rank⟩
  obtain ⟨n, hn, k, hdecimal, hk, hcoarsest⟩ := Interval.coarsest_spec hlow hhigh hfound
  refine ⟨n, hn, k, ?_, Interval.has_of_holds hk, hcoarsest⟩
  rw [shortest, if_neg (Nat.succ_ne_zero rank), hdecimal]
  rfl

/-- The decimals in the interval of a finite magnitude have a few places in front of the point at
most, if the magnitudes are bounded: no more than the bound. -/
theorem places_of_has {n k rank places : Nat} (hn : n < finestGrid + places)
    (hbound : units infiniteRank < 10 ^ places * unitsPerOne) (hrank : rank + 1 < infiniteRank)
    (h : (Interval.ofRank (rank + 1)).Has (k * 10 ^ (n - finestGrid) * unitsPerOne)
      (10 ^ (finestGrid - n))) :
    (n : Int) - finestGrid + (Nat.toDigits 10 k).length ≤ places := by
  have hends : (Interval.ofRank (rank + 1)).high ≤ 4 * units infiniteRank := by
    have hself : units (rank + 1) ≤ units infiniteRank := units_strictMono.monotone hrank.le
    have hnext : units (rank + 2) ≤ units infiniteRank := units_strictMono.monotone hrank
    rw [Interval.ofRank_succ]
    dsimp only
    omega
  have hvalue : k * 10 ^ (n - finestGrid) < 10 ^ places * 10 ^ (finestGrid - n) := by
    apply Nat.lt_of_mul_lt_mul_left (a := 4 * unitsPerOne)
    calc 4 * unitsPerOne * (k * 10 ^ (n - finestGrid))
        = 4 * (k * 10 ^ (n - finestGrid) * unitsPerOne) := by ring
      _ ≤ (Interval.ofRank (rank + 1)).high * 10 ^ (finestGrid - n) := h.high
      _ ≤ 4 * units infiniteRank * 10 ^ (finestGrid - n) := Nat.mul_le_mul_right _ hends
      _ < 4 * (10 ^ places * unitsPerOne) * 10 ^ (finestGrid - n) :=
        Nat.mul_lt_mul_of_pos_right (Nat.mul_lt_mul_of_pos_left hbound (by decide))
          (Nat.pow_pos (by decide))
      _ = 4 * unitsPerOne * (10 ^ places * 10 ^ (finestGrid - n)) := by ring
  have hsplit : places + (finestGrid - n) = finestGrid + places - n + (n - finestGrid) := by omega
  rw [← Nat.pow_add, hsplit, Nat.pow_add] at hvalue
  have hlength : (Nat.toDigits 10 k).length ≤ finestGrid + places - n :=
    (Nat.length_toDigits_le_iff (by decide) (by omega)).mpr (Nat.lt_of_mul_lt_mul_right hvalue)
  omega

/-- Zero is in no interval but its own. -/
theorem ne_zero_of_has {n k rank den : Nat} (hden : 0 < den)
    (h : (Interval.ofRank (rank + 1)).Has (k * 10 ^ n * unitsPerOne) den) : k ≠ 0 := by
  rintro rfl
  have hself : units 0 < units (rank + 1) := units_strictMono (Nat.succ_pos rank)
  have hlow := h.low
  rw [Interval.ofRank_succ, Nat.zero_mul, Nat.zero_mul, Nat.mul_zero] at hlow
  have hzero := Nat.eq_zero_of_le_zero hlow
  rcases Nat.mul_eq_zero.mp hzero with hends | hnone
  · dsimp only at hends
    omega
  · exact absurd hnone hden.ne'

/-- **The shortest digits read back.** -/
theorem ofDecimal_shortest (negative : Bool) {rank : Nat} (hrank : rank < infiniteRank) :
    ofDecimal negative (shortest rank).coefficient (shortest rank).exponent
      = ofRank negative rank := by
  cases rank with
  | zero => exact ofDecimal_of_eq_zero 0
  | succ rank =>
    obtain ⟨n, hn, k, hdecimal, hhas, -⟩ := shortest_spec rank
    have hpos : 0 < 10 ^ (finestGrid - n) := Nat.pow_pos (by decide)
    have hne := ne_zero_of_has hpos hhas
    have hplaces := places_of_has hn (by decide +kernel) hrank hhas
    have hexponent : ((n : Int) - finestGrid).toNat = n - finestGrid := by omega
    have hexponent' : (-((n : Int) - finestGrid)).toNat = finestGrid - n := by omega
    have hfinest : finestGrid = 324 := rfl
    rw [hdecimal]
    dsimp only
    rw [ofDecimal_eq_ofRatio hne (by omega) hplaces, hexponent, hexponent', ofRatio,
      rankOfRatio_of_has hpos hhas]

end SessionPlan.Binary64
