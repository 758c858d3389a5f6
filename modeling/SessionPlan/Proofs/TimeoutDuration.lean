/-
How long an accepted timeout lasts.

A timeout is accepted as a positive number of seconds and handed out as a whole number of
nanoseconds, the nearest one. It has no duration only if its seconds do not fit into 64 bits. From
`2⁵²` on all doubles are whole numbers, so the greatest one below `2⁶⁴` is a whole second away from
it, and rounding to nanoseconds cannot bridge that. At the other end it does cross a border: a
timeout of half a nanosecond or less is rounded to nothing, although it was accepted as positive.
-/
import SessionPlan.Plan
import SessionPlan.Proofs.Rounding

set_option autoImplicit false

namespace SessionPlan

namespace Duration

open Binary64 (units unitsPerOne unitsPerOne_pos cast_unitsPerOne_pos magnitude)

/-! ## Nanoseconds -/

/-- The nanoseconds in a duration, those in its seconds included. -/
def total (d : Duration) : Nat := d.seconds.toNat * nanosecondsPerSecond + d.nanoseconds

variable {rank : Nat} {d : Duration}

theorem nanosecondsPerSecond_pos : 0 < nanosecondsPerSecond := by decide

theorem cast_nanosecondsPerSecond_pos : (0 : ℚ) < nanosecondsPerSecond := by
  exact_mod_cast nanosecondsPerSecond_pos

theorem ofNanoseconds?_eq_none_iff {n : Nat} :
    ofNanoseconds? n = none ↔ 2 ^ 64 * nanosecondsPerSecond ≤ n := by
  rw [ofNanoseconds?, ← Nat.le_div_iff_mul_le nanosecondsPerSecond_pos]
  split
  next hfits => exact ⟨nofun, fun h => absurd hfits (Nat.not_lt.mpr h)⟩
  next hfits => exact ⟨fun _ => Nat.le_of_not_lt hfits, fun _ => rfl⟩

/-- A duration has the nanoseconds that it was made of. -/
theorem total_of_ofNanoseconds? {n : Nat} (h : ofNanoseconds? n = some d) : d.total = n := by
  rw [ofNanoseconds?] at h
  split at h
  next hfits =>
    cases h
    rw [total, UInt64.toNat_ofNat_of_lt' hfits]
    exact Nat.div_add_mod' n nanosecondsPerSecond
  next => cases h

/-- The nanoseconds of a magnitude are off by half of one at most. -/
theorem dist_nanosecondsOfRank (rank : Nat) :
    2 * Nat.dist (nanosecondsOfRank rank * unitsPerOne) (units rank * nanosecondsPerSecond)
      ≤ unitsPerOne :=
  (Binary64.dist_roundHalfEven (units rank * nanosecondsPerSecond) unitsPerOne_pos).1

/-- **Nothing is left** of half a nanosecond or less: a tie goes to zero, which is even. -/
theorem nanosecondsOfRank_eq_zero_iff :
    nanosecondsOfRank rank = 0 ↔ 2 * (units rank * nanosecondsPerSecond) ≤ unitsPerOne := by
  obtain ⟨hhalf, htie⟩ :=
    Binary64.dist_roundHalfEven (units rank * nanosecondsPerSecond) unitsPerOne_pos
  have hpos := unitsPerOne_pos
  rw [← nanosecondsOfRank] at hhalf htie
  generalize nanosecondsOfRank rank = n at hhalf htie ⊢
  generalize units rank * nanosecondsPerSecond = num at hhalf htie ⊢
  generalize unitsPerOne = den at hhalf htie hpos ⊢
  constructor
  · rintro rfl
    rw [Nat.zero_mul, Nat.dist_comm, Nat.dist_zero_right] at hhalf
    exact hhalf
  · intro hle
    unfold Nat.dist at hhalf htie
    by_contra hne
    -- one would be half a denominator off as well, but it is odd
    have hone : n = 1 := by
      by_contra hmore
      have htwo : 2 * den ≤ n * den := Nat.mul_le_mul_right den (by omega)
      omega
    rw [hone, Nat.one_mul] at hhalf htie
    omega

/-- Below `2⁶⁴` a magnitude stays a whole second away from it. -/
theorem units_add_unitsPerOne_le (h : units rank < 2 ^ 64 * unitsPerOne) :
    units rank + unitsPerOne ≤ 2 ^ 64 * unitsPerOne := by
  by_cases hwhole : (Binary64.unitExponent + 1) * Binary64.binade ≤ rank
  · -- a whole number of seconds
    obtain ⟨m, hm⟩ := Binary64.two_pow_dvd_units hwhole
    rw [← Binary64.unitsPerOne_eq, Nat.mul_comm] at hm
    rw [hm] at h ⊢
    have hlt : m < 2 ^ 64 := Nat.lt_of_mul_lt_mul_right h
    rw [← Nat.succ_mul]
    exact Nat.mul_le_mul_right _ hlt
  · have hsmall := Binary64.units_strictMono (Nat.lt_of_not_le hwhole)
    rw [Binary64.units_succ_mul_binade, ← Binary64.unitsPerOne_eq, Binary64.binade_eq] at hsmall
    omega

/-- **Too long** is a magnitude from `2⁶⁴` on. -/
theorem le_nanosecondsOfRank_iff :
    2 ^ 64 * nanosecondsPerSecond ≤ nanosecondsOfRank rank ↔ 2 ^ 64 * unitsPerOne ≤ units rank := by
  have hhalf := dist_nanosecondsOfRank rank
  have hpos := unitsPerOne_pos
  have hscale : 2 ^ 64 * nanosecondsPerSecond * unitsPerOne
      = 2 ^ 64 * unitsPerOne * nanosecondsPerSecond := by ring
  unfold Nat.dist at hhalf
  constructor
  · intro hlong
    by_contra hlt
    have hgap := Nat.mul_le_mul_right nanosecondsPerSecond
      (units_add_unitsPerOne_le (Nat.lt_of_not_le hlt))
    have hone : unitsPerOne ≤ unitsPerOne * nanosecondsPerSecond :=
      Nat.le_mul_of_pos_right _ nanosecondsPerSecond_pos
    have hrounded := Nat.mul_le_mul_right unitsPerOne hlong
    rw [Nat.add_mul] at hgap
    omega
  · intro hlong
    by_contra hlt
    have hrounded := Nat.mul_le_mul_right unitsPerOne (Nat.lt_of_not_le hlt)
    have hexact := Nat.mul_le_mul_right nanosecondsPerSecond hlong
    rw [Nat.succ_mul] at hrounded
    omega

/-! ## Seconds -/

theorem mul_le_units_iff {n : Nat} : n * unitsPerOne ≤ units rank ↔ (n : ℚ) ≤ magnitude rank := by
  rw [magnitude, le_div_iff₀ cast_unitsPerOne_pos]
  exact_mod_cast Iff.rfl

/-- The seconds of a duration are those that it was made of, to the nearest nanosecond. -/
theorem abs_total_sub (rank : Nat) :
    |(nanosecondsOfRank rank : ℚ) / nanosecondsPerSecond - magnitude rank|
      ≤ 1 / (2 * nanosecondsPerSecond) := by
  have hone := cast_unitsPerOne_pos
  have hnano := cast_nanosecondsPerSecond_pos
  have hhalf := dist_nanosecondsOfRank rank
  rw [Nat.dist_comm] at hhalf
  rw [abs_sub_comm, Binary64.abs_magnitude_sub nanosecondsPerSecond_pos,
    div_le_div_iff₀ (mul_pos hone hnano) (mul_pos two_pos hnano)]
  generalize Nat.dist _ _ = dist at hhalf ⊢
  have hcast : 2 * (dist : ℚ) ≤ unitsPerOne := by exact_mod_cast hhalf
  calc (dist : ℚ) * (2 * nanosecondsPerSecond) = 2 * dist * nanosecondsPerSecond := by ring
    _ ≤ unitsPerOne * nanosecondsPerSecond := mul_le_mul_of_nonneg_right hcast hnano.le
    _ = 1 * (unitsPerOne * nanosecondsPerSecond) := (one_mul _).symm

/-- A duration is longer than nothing when the seconds are more than half a nanosecond. -/
theorem nanosecondsOfRank_pos_iff :
    0 < nanosecondsOfRank rank ↔ 1 / (2 * nanosecondsPerSecond) < magnitude rank := by
  have hone := cast_unitsPerOne_pos
  have hnano := cast_nanosecondsPerSecond_pos
  have hexact : 1 / (2 * nanosecondsPerSecond) < magnitude rank
      ↔ (unitsPerOne : ℚ) < 2 * (units rank * nanosecondsPerSecond) := by
    rw [magnitude, div_lt_div_iff₀ (mul_pos two_pos hnano) hone, one_mul]
    ring_nf
  rw [hexact, Nat.pos_iff_ne_zero, Ne, nanosecondsOfRank_eq_zero_iff, Nat.not_le]
  exact_mod_cast Iff.rfl

/-- A positive number of seconds is infinite or has a rank, and its duration is that of the rank. -/
theorem ofSeconds?_of_isPositive {x : Binary64} (h : x.isPositive = true) :
    (x.toRat? = none ∧ ofSeconds? x = none) ∨
      ∃ rank, x.toRat? = some (magnitude rank) ∧
        ofSeconds? x = ofNanoseconds? (nanosecondsOfRank rank) := by
  cases x with
  | nan => cases h
  | infinite negative => exact Or.inl ⟨rfl, rfl⟩
  | finite negative rank =>
    cases negative with
    | true => cases h
    | false => exact Or.inr ⟨rank.val, by simp [Binary64.toRat?], by simp [ofSeconds?]⟩

end Duration

namespace ClientSettings

variable {timeout : CommandTimeout} {client : ClientSettings}

/-- An accepted timeout is a positive number of seconds, and kept as it is. -/
theorem positive_of_ofTimeout (h : ofTimeout (some timeout) = .ok client) :
    ∃ x, timeout.number? = some x ∧ x.isPositive = true ∧ client = ⟨some x⟩ := by
  rw [ofTimeout] at h
  split at h
  next x hseconds =>
    obtain ⟨hnumber, hpositive⟩ := Option.filter_eq_some_iff.mp hseconds
    exact ⟨x, hnumber, hpositive, (Except.ok.inj h).symm⟩
  next => cases h

/-- **How long an accepted timeout lasts.** It is a positive number of seconds. It has no duration
exactly if it is infinite or `2⁶⁴` seconds or longer. Otherwise its duration is the nearest number of
nanoseconds, and that is greater than zero exactly if the timeout is longer than half of one. -/
theorem accepted_timeout_duration (h : ofTimeout (some timeout) = .ok client) :
    ∃ x, timeout.number? = some x ∧ x.isPositive = true ∧ client.commandTimeout = some x ∧
      (client.duration? = none ↔ ∀ q, x.toRat? = some q → 2 ^ 64 ≤ q) ∧
      ∀ d, client.duration? = some d → ∃ q, x.toRat? = some q ∧
        |(d.total : ℚ) / nanosecondsPerSecond - q| ≤ 1 / (2 * nanosecondsPerSecond) ∧
        (0 < d.total ↔ 1 / (2 * nanosecondsPerSecond) < q) := by
  obtain ⟨x, hnumber, hpositive, rfl⟩ := positive_of_ofTimeout h
  refine ⟨x, hnumber, hpositive, rfl, ?_⟩
  rw [duration?, Option.bind_some]
  rcases Duration.ofSeconds?_of_isPositive hpositive with ⟨hvalue, hnone⟩ | ⟨rank, hvalue, hsome⟩
  · rw [hnone, hvalue]
    exact ⟨⟨fun _ => nofun, fun _ => rfl⟩, nofun⟩
  · rw [hsome, hvalue]
    constructor
    · rw [Duration.ofNanoseconds?_eq_none_iff, Duration.le_nanosecondsOfRank_iff,
        Duration.mul_le_units_iff]
      simp only [Option.some.injEq, forall_eq', Nat.cast_pow, Nat.cast_ofNat]
    · intro d hd
      rw [Duration.total_of_ofNanoseconds? hd]
      exact ⟨_, rfl, Duration.abs_total_sub rank, Duration.nanosecondsOfRank_pos_iff⟩

/-- A little more than half a nanosecond lasts a whole one. -/
theorem accepted_timeout_duration_of_text :
    let x := Binary64.ofDecimal false 6 (-10)
    ofTimeout (some (.numeral "6e-10")) = .ok ⟨some x⟩ ∧
      ∃ q d, x.toRat? = some q ∧ duration? ⟨some x⟩ = some d ∧ d.total = 1 ∧
        1 / (2 * nanosecondsPerSecond) < q := by
  intro x
  have haccepted : ofTimeout (some (.numeral "6e-10")) = .ok ⟨some x⟩ := by decide +kernel
  obtain ⟨y, -, -, hy, -, hduration⟩ := accepted_timeout_duration haccepted
  obtain rfl : x = y := Option.some.inj hy
  have hone : duration? ⟨some x⟩ = some ⟨0, 1, by decide⟩ := by decide +kernel
  obtain ⟨q, hq, -, hpositive⟩ := hduration _ hone
  exact ⟨haccepted, q, _, hq, hone, rfl, hpositive.mp (by decide)⟩

/-- The shortest positive number of seconds is accepted and lasts no time at all. -/
theorem shortest_timeout_lasts_nothing :
    ¬ ∀ (timeout : CommandTimeout) (client : ClientSettings),
      ofTimeout (some timeout) = .ok client →
        client.duration? = none ∨ ∃ d, client.duration? = some d ∧ 0 < d.total := by
  intro h
  have haccepted : ofTimeout (some (.real (Binary64.ofRank false 1)))
      = .ok ⟨some (Binary64.ofRank false 1)⟩ := by decide +kernel
  have hduration : duration? ⟨some (Binary64.ofRank false 1)⟩ = some ⟨0, 0, by decide⟩ := by
    decide +kernel
  rcases h _ _ haccepted with hnone | ⟨d, hd, hpositive⟩
  · rw [hduration] at hnone
    cases hnone
  · rw [hduration] at hd
    cases hd
    exact absurd hpositive (by decide)

end ClientSettings

end SessionPlan
