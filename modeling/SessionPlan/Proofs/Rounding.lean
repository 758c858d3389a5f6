/-
Rounding to the nearest number.

The magnitudes of the format lie on grids: from a power of two up to its double they are multiples
of one power of two, the spacing, and below the first such range they are multiples of one unit.
Rounding picks the spacing at the exact value and rounds to a multiple of it. This is the nearest of
all magnitudes. Those above are multiples of the spacing too; those below the range are farther away
than its lower end, which is such a multiple. The ranks number the magnitudes in ascending order and
every range has evenly many, so an even multiple has an even rank, and ties go to the even rank.

All of this is exact: magnitudes are compared as multiples of one unit, and a quotient is compared
by its numerator, the other side being multiplied by the denominator.
-/
import SessionPlan.Binary64
import Mathlib.Algebra.Order.Field.Basic
import Mathlib.Data.Nat.Dist
import Mathlib.Tactic.FieldSimp
import Mathlib.Tactic.Linarith
import Mathlib.Tactic.Ring

set_option autoImplicit false

namespace SessionPlan.Binary64

/-! ## Whole numbers -/

section

variable {den : Nat}

/-- What was rounded is off by half the denominator at most, and by half of it only if the result is
even. -/
theorem dist_roundHalfEven (num : Nat) (hden : 0 < den) :
    2 * Nat.dist (roundHalfEven num den * den) num ≤ den ∧
      (2 * Nat.dist (roundHalfEven num den * den) num = den → roundHalfEven num den % 2 = 0) := by
  have hsplit : num / den * den + num % den = num := Nat.div_add_mod' num den
  have hmod : num % den < den := Nat.mod_lt num hden
  have hnext : (num / den + 1) * den = num / den * den + den := Nat.succ_mul _ _
  unfold roundHalfEven Nat.dist
  split
  next => omega
  next =>
    split
    next => rw [hnext]; omega
    next =>
      -- a tie, which goes up from an odd quotient
      rcases Nat.mod_two_eq_zero_or_one (num / den) with heven | hodd
      · rw [heven, Nat.add_zero]
        omega
      · rw [hodd, hnext]
        omega

/-- **Nearest whole number.** No other multiple of the denominator is nearer, and if another one is
as near, the result is even. -/
theorem roundHalfEven_nearest (num : Nat) (hden : 0 < den) (m : Nat) :
    Nat.dist (roundHalfEven num den * den) num ≤ Nat.dist (m * den) num ∧
      (m ≠ roundHalfEven num den →
        Nat.dist (m * den) num = Nat.dist (roundHalfEven num den * den) num →
        roundHalfEven num den % 2 = 0) := by
  obtain ⟨hhalf, htie⟩ := dist_roundHalfEven num hden
  generalize roundHalfEven num den = k at hhalf htie ⊢
  -- two different multiples are a whole denominator apart
  have hapart : m ≠ k → m * den + den ≤ k * den ∨ k * den + den ≤ m * den := by
    intro hne
    rcases Nat.lt_or_gt_of_ne hne with hlt | hgt
    · exact Or.inl (Nat.succ_mul m den ▸ Nat.mul_le_mul_right den hlt)
    · exact Or.inr (Nat.succ_mul k den ▸ Nat.mul_le_mul_right den hgt)
  unfold Nat.dist at hhalf htie ⊢
  by_cases hm : m = k
  · rw [hm]
    exact ⟨Nat.le_refl _, fun hne => absurd rfl hne⟩
  · have hfar := hapart hm
    exact ⟨by omega, fun _ heq => htie (by omega)⟩

end

/-! ## Magnitudes -/

theorem binade_eq : binade = 2 ^ 52 := by decide

theorem binade_pos : 0 < binade := by decide

theorem binade_even : binade % 2 = 0 := by decide

theorem units_eq_mul (rank : Nat) : units rank = significand rank * 2 ^ doublings rank := by
  rw [units, Nat.shiftLeft_eq]

/-- A rank is made of the spacing of its magnitude and the multiple of it. -/
theorem doublings_mul_add_significand (rank : Nat) :
    doublings rank * binade + significand rank = rank := by
  have hsplit : rank / binade * binade + rank % binade = rank := Nat.div_add_mod' rank binade
  rw [doublings, significand]
  split
  next hlow => rw [Nat.div_eq_of_lt hlow, Nat.zero_sub, Nat.zero_mul, Nat.zero_add]
  next hlow =>
    obtain ⟨n, hn⟩ := Nat.exists_eq_add_one_of_ne_zero
      (Nat.div_pos (Nat.le_of_not_lt hlow) binade_pos).ne'
    rw [hn, Nat.succ_mul] at hsplit
    rw [hn, Nat.add_sub_cancel]
    omega

/-- Either there is no doubling and the significand is any, or it fills all bits. -/
theorem significand_bounds (rank : Nat) :
    (doublings rank = 0 ∨ binade ≤ significand rank) ∧ significand rank < 2 * binade := by
  have hmod : rank % binade < binade := Nat.mod_lt rank binade_pos
  rw [doublings, significand]
  split
  next hlow => exact ⟨Or.inl (by rw [Nat.div_eq_of_lt hlow]), by omega⟩
  next => exact ⟨Or.inr (Nat.le_add_right _ _), by omega⟩

/-- **The multiples of a spacing.** The magnitudes of consecutive ranks are consecutive multiples
of the spacing, up to the first one with twice the spacing. -/
theorem units_mul_add {spacing multiple : Nat} (hlow : spacing = 0 ∨ binade ≤ multiple)
    (hhigh : multiple ≤ 2 * binade) :
    units (spacing * binade + multiple) = multiple * 2 ^ spacing := by
  have hpos := binade_pos
  by_cases hsmall : multiple < binade
  · obtain rfl : spacing = 0 := hlow.resolve_right (Nat.not_le.mpr hsmall)
    rw [Nat.zero_mul, Nat.zero_add, units_eq_mul, significand, doublings, if_pos hsmall,
      Nat.div_eq_of_lt hsmall]
  · have hunits : ∀ s m, binade ≤ m → m < 2 * binade →
        units (s * binade + m) = m * 2 ^ s := by
      intro s m hm hm'
      obtain ⟨field, rfl⟩ := Nat.exists_eq_add_of_le hm
      have hrank : s * binade + (binade + field) = field + (s + 1) * binade := by
        rw [Nat.succ_mul]
        omega
      have hfield : field < binade := by omega
      have hbeyond : ¬ field + (s + 1) * binade < binade := by
        rw [Nat.succ_mul]
        omega
      rw [hrank, units_eq_mul, significand, doublings, if_neg hbeyond,
        Nat.add_mul_div_right _ _ hpos, Nat.div_eq_of_lt hfield, Nat.add_mul_mod_self_right,
        Nat.mod_eq_of_lt hfield, Nat.zero_add, Nat.add_sub_cancel]
    rcases Nat.lt_or_eq_of_le hhigh with hlt | rfl
    · exact hunits spacing multiple (Nat.le_of_not_lt hsmall) hlt
    · -- twice the first multiple is the first one of twice the spacing
      have hrank : spacing * binade + 2 * binade = (spacing + 1) * binade + binade := by
        rw [Nat.succ_mul spacing]
        omega
      rw [hrank, hunits (spacing + 1) binade (Nat.le_refl _) (by omega), Nat.pow_succ]
      ring

/-- The first magnitude with a spacing is a power of two. -/
theorem units_succ_mul_binade (spacing : Nat) :
    units ((spacing + 1) * binade) = binade * 2 ^ spacing := by
  rw [Nat.succ_mul]
  exact units_mul_add (Or.inr (Nat.le_refl _)) (by omega)

/-- The next magnitude is one spacing farther. -/
theorem units_succ (rank : Nat) : units (rank + 1) = units rank + 2 ^ doublings rank := by
  obtain ⟨hlow, hhigh⟩ := significand_bounds rank
  have hrank := doublings_mul_add_significand rank
  have hnext : units (rank + 1) = (significand rank + 1) * 2 ^ doublings rank := by
    conv_lhs => rw [← hrank, Nat.add_assoc]
    exact units_mul_add (hlow.imp id fun h => by omega) (by omega)
  rw [hnext, units_eq_mul, Nat.succ_mul]

/-- **The order of ranks** is that of their magnitudes. -/
theorem units_strictMono : StrictMono units := by
  apply strictMono_nat_of_lt_succ
  intro rank
  rw [units_succ]
  exact Nat.lt_add_of_pos_right (Nat.two_pow_pos _)

/-- From the first magnitude with a spacing on, all are multiples of it. -/
theorem two_pow_dvd_units {spacing rank : Nat} (h : (spacing + 1) * binade ≤ rank) :
    2 ^ spacing ∣ units rank := by
  have hdoublings : spacing ≤ doublings rank := by
    have hquot : spacing + 1 ≤ rank / binade := (Nat.le_div_iff_mul_le binade_pos).mpr h
    rw [doublings]
    omega
  rw [units_eq_mul]
  exact Dvd.dvd.mul_left (Nat.pow_dvd_pow 2 hdoublings) _

/-! ## Quotients -/

/-- The spacing at a quotient: its exponent in a power of two. -/
def spacingOf (num den : Nat) : Nat := (num / den).log2 - 52

/-- The multiple of the spacing that is nearest to a quotient. -/
def multipleOf (num den : Nat) : Nat := roundHalfEven num (den * 2 ^ spacingOf num den)

variable {den : Nat}

theorem rankOfRatio_eq (num den : Nat) :
    rankOfRatio num den = spacingOf num den * binade + multipleOf num den := by
  rw [rankOfRatio, multipleOf, spacingOf, Nat.shiftLeft_eq]

/-- A common factor makes no difference. -/
theorem rankOfRatio_mul_right (num den : Nat) {factor : Nat} (hfactor : 0 < factor) :
    rankOfRatio (num * factor) (den * factor) = rankOfRatio num den := by
  have hround : ∀ den, roundHalfEven (num * factor) (den * factor) = roundHalfEven num den := by
    intro den
    have htwice : 2 * (num % den * factor) = 2 * (num % den) * factor := (Nat.mul_assoc _ _ _).symm
    simp only [roundHalfEven, Nat.mul_div_mul_right _ _ hfactor, Nat.mul_mod_mul_right, htwice,
      Nat.mul_lt_mul_right hfactor]
  have hspacing : spacingOf (num * factor) (den * factor) = spacingOf num den := by
    rw [spacingOf, spacingOf, Nat.mul_div_mul_right _ _ hfactor]
  rw [rankOfRatio_eq, rankOfRatio_eq, multipleOf, multipleOf, hspacing, Nat.mul_right_comm, hround]

/-- **Equal quotients** have the same rank. -/
theorem rankOfRatio_congr {num num' den den' : Nat} (hden : 0 < den) (hden' : 0 < den')
    (h : num * den' = num' * den) : rankOfRatio num den = rankOfRatio num' den' :=
  calc rankOfRatio num den = rankOfRatio (num * den') (den * den') :=
        (rankOfRatio_mul_right num den hden').symm
    _ = rankOfRatio (num' * den) (den' * den) := by rw [h, Nat.mul_comm den]
    _ = rankOfRatio num' den' := rankOfRatio_mul_right num' den' hden

/-- A quotient lies between the first magnitude with its spacing and the last one. -/
theorem spacingOf_bounds (num : Nat) (hden : 0 < den) :
    (spacingOf num den = 0 ∨ binade * (den * 2 ^ spacingOf num den) ≤ num) ∧
      num < 2 * binade * (den * 2 ^ spacingOf num den) := by
  have hquot : num < (num / den + 1) * den := Nat.lt_mul_of_div_lt (Nat.lt_succ_self _) hden
  have hupper : num / den < 2 * binade * 2 ^ spacingOf num den := by
    have hlog : num / den < 2 ^ ((num / den).log2 + 1) := Nat.lt_log2_self
    have hpow : 2 ^ ((num / den).log2 + 1) ≤ 2 ^ (53 + spacingOf num den) :=
      Nat.pow_le_pow_right (by decide) (by rw [spacingOf]; omega)
    rw [binade_eq, ← Nat.pow_succ', ← Nat.pow_add]
    exact Nat.lt_of_lt_of_le hlog hpow
  constructor
  · by_cases hzero : spacingOf num den = 0
    · exact Or.inl hzero
    · right
      have hlog : (num / den).log2 = 52 + spacingOf num den := by
        rw [spacingOf] at hzero ⊢
        omega
      have hne : num / den ≠ 0 := by
        intro heq
        rw [heq, Nat.log2_zero] at hlog
        omega
      have hlower : 2 ^ (52 + spacingOf num den) ≤ num / den := hlog ▸ Nat.log2_self_le hne
      calc binade * (den * 2 ^ spacingOf num den)
          = 2 ^ (52 + spacingOf num den) * den := by rw [binade_eq, Nat.pow_add]; ring
        _ ≤ num / den * den := Nat.mul_le_mul_right den hlower
        _ ≤ num := Nat.div_mul_le_self num den
  · calc num < (num / den + 1) * den := hquot
      _ ≤ 2 * binade * 2 ^ spacingOf num den * den := Nat.mul_le_mul_right den hupper
      _ = 2 * binade * (den * 2 ^ spacingOf num den) := by ring

/-- The nearest multiple lies in the range of its spacing. -/
theorem multipleOf_bounds (num : Nat) (hden : 0 < den) :
    (spacingOf num den = 0 ∨ binade ≤ multipleOf num den) ∧ multipleOf num den ≤ 2 * binade := by
  obtain ⟨hlow, hhigh⟩ := spacingOf_bounds num hden
  have hpos : 0 < den * 2 ^ spacingOf num den := Nat.mul_pos hden (Nat.two_pow_pos _)
  obtain ⟨hhalf, -⟩ := dist_roundHalfEven num hpos
  rw [← multipleOf] at hhalf
  unfold Nat.dist at hhalf
  constructor
  · refine hlow.imp id fun hlow => ?_
    by_contra hlt
    have hnext := Nat.mul_le_mul_right (den * 2 ^ spacingOf num den) (Nat.lt_of_not_le hlt)
    rw [Nat.succ_mul] at hnext
    omega
  · by_contra hgt
    have hnext := Nat.mul_le_mul_right (den * 2 ^ spacingOf num den) (Nat.lt_of_not_le hgt)
    rw [Nat.succ_mul] at hnext
    omega

theorem units_rankOfRatio (num : Nat) (hden : 0 < den) :
    units (rankOfRatio num den) * den
      = multipleOf num den * (den * 2 ^ spacingOf num den) := by
  obtain ⟨hlow, hhigh⟩ := multipleOf_bounds num hden
  rw [rankOfRatio_eq, units_mul_add hlow hhigh]
  ring

/-- **Nearest magnitude.** No other magnitude is nearer to the quotient, and if another one is as
near, the rank is even. -/
theorem rankOfRatio_nearest (num : Nat) (hden : 0 < den) (rank : Nat) :
    Nat.dist (units (rankOfRatio num den) * den) num ≤ Nat.dist (units rank * den) num ∧
      (rank ≠ rankOfRatio num den →
        Nat.dist (units rank * den) num = Nat.dist (units (rankOfRatio num den) * den) num →
        rankOfRatio num den % 2 = 0) := by
  have hpos : 0 < den * 2 ^ spacingOf num den := Nat.mul_pos hden (Nat.two_pow_pos _)
  obtain ⟨hlow, hhigh⟩ := multipleOf_bounds num hden
  have hunits := units_rankOfRatio num hden
  by_cases hmultiple : 2 ^ spacingOf num den ∣ units rank
  · -- a multiple of the spacing as well, so the nearest multiple decides
    obtain ⟨m, hm⟩ := hmultiple
    have hother : units rank * den = m * (den * 2 ^ spacingOf num den) := by
      rw [hm]
      ring
    obtain ⟨hle, heven⟩ := roundHalfEven_nearest num hpos m
    rw [← multipleOf] at hle heven
    rw [hunits, hother]
    refine ⟨hle, fun hne heq => ?_⟩
    have hmne : m ≠ multipleOf num den := by
      rintro rfl
      apply hne
      apply units_strictMono.injective
      rw [rankOfRatio_eq, units_mul_add hlow hhigh, hm, Nat.mul_comm]
    have hmeven := heven hmne heq
    rw [rankOfRatio_eq, Nat.add_mod, Nat.mul_mod, binade_even, hmeven, Nat.mul_zero]
  · -- below the range, and its lower end is nearer
    have hbelow : rank < (spacingOf num den + 1) * binade := by
      by_contra hge
      exact hmultiple (two_pow_dvd_units (Nat.le_of_not_lt hge))
    have hspacing : spacingOf num den ≠ 0 := by
      intro hzero
      rw [hzero] at hmultiple
      exact hmultiple (one_dvd _)
    have hlt : units rank * den < binade * (den * 2 ^ spacingOf num den) := by
      have hunitslt := units_succ_mul_binade _ ▸ units_strictMono hbelow
      calc units rank * den < binade * 2 ^ spacingOf num den * den :=
            Nat.mul_lt_mul_of_pos_right hunitslt hden
        _ = binade * (den * 2 ^ spacingOf num den) := by ring
    have hstart : binade * (den * 2 ^ spacingOf num den) ≤ num :=
      (spacingOf_bounds num hden).1.resolve_left hspacing
    obtain ⟨hle, -⟩ := roundHalfEven_nearest num hpos binade
    rw [← multipleOf, ← hunits] at hle
    unfold Nat.dist at hle ⊢
    omega

/-- A quotient below `2 ^ (53 + n)` is rounded to `2 ^ (53 + n)` at most. -/
theorem rankOfRatio_le {num n : Nat} (hden : 0 < den) (h : num / den < 2 ^ (53 + n)) :
    rankOfRatio num den ≤ (n + 2) * binade := by
  have hspacing : spacingOf num den ≤ n := by
    by_cases hzero : num / den = 0
    · rw [spacingOf, hzero, Nat.log2_zero]
      omega
    · have hlog := (Nat.log2_lt hzero).mpr h
      rw [spacingOf]
      omega
  obtain ⟨-, hhigh⟩ := multipleOf_bounds num hden
  calc rankOfRatio num den = spacingOf num den * binade + multipleOf num den := rankOfRatio_eq _ _
    _ ≤ n * binade + 2 * binade := Nat.add_le_add (Nat.mul_le_mul_right _ hspacing) hhigh
    _ = (n + 2) * binade := (Nat.add_mul _ _ _).symm

/-! ## Numbers -/

/-- The magnitude with the given rank, as a number. -/
def magnitude (rank : Nat) : ℚ := units rank / unitsPerOne

/-- The number that is encoded, if it is a finite one. -/
def toRat? : Binary64 → Option ℚ
  | .finite negative rank => some (if negative then -magnitude rank else magnitude rank)
  | .nan | .infinite _ => none

/-- The magnitude with the given rank is `q`, rounded: no finite number is nearer to `q`, and if
another one is as near, the last bit of the rank is zero. -/
structure IsNearest (q : ℚ) (rank : Nat) : Prop where
  le : ∀ x v, toRat? x = some v → |magnitude rank - q| ≤ |v - q|
  even : ∀ x v, toRat? x = some v → v ≠ magnitude rank → |v - q| = |magnitude rank - q| →
    rank % 2 = 0

/-- The units in the number one are a power of two. -/
def unitExponent : Nat := 1074

theorem unitsPerOne_eq : unitsPerOne = 2 ^ unitExponent := Nat.one_shiftLeft unitExponent

theorem unitsPerOne_pos : 0 < unitsPerOne := by
  rw [unitsPerOne_eq]
  exact Nat.two_pow_pos unitExponent

theorem cast_unitsPerOne_pos : (0 : ℚ) < unitsPerOne := by
  exact_mod_cast unitsPerOne_pos

theorem magnitude_nonneg (rank : Nat) : 0 ≤ magnitude rank :=
  div_nonneg (Nat.cast_nonneg _) (Nat.cast_nonneg _)

theorem magnitude_zero : magnitude 0 = 0 := by
  have hunits : units 0 = 0 := by decide
  rw [magnitude, hunits, Nat.cast_zero, zero_div]

/-- A distance between numbers, told in units. -/
theorem abs_magnitude_sub (hden : 0 < den) (rank num : Nat) :
    |magnitude rank - num / den|
      = Nat.dist (units rank * den) (num * unitsPerOne) / (unitsPerOne * den) := by
  have hone := cast_unitsPerOne_pos
  have hden' : (0 : ℚ) < den := by exact_mod_cast hden
  have hcast : ∀ m n : Nat, |(m : ℚ) - n| = Nat.dist m n := by
    intro m n
    rcases Nat.le_total m n with h | h
    · have h' : (m : ℚ) ≤ n := by exact_mod_cast h
      rw [Nat.dist_eq_sub_of_le h, Nat.cast_sub h, abs_of_nonpos (by linarith), neg_sub]
    · have h' : (n : ℚ) ≤ m := by exact_mod_cast h
      rw [Nat.dist_eq_sub_of_le_right h, Nat.cast_sub h, abs_of_nonneg (by linarith)]
  have hdiff : magnitude rank - num / den
      = (((units rank * den : Nat) : ℚ) - (num * unitsPerOne : Nat)) / (unitsPerOne * den) := by
    rw [magnitude]
    push_cast
    field_simp
  rw [hdiff, abs_div, abs_of_pos (mul_pos hone hden'), hcast]

/-- A number below zero is as far off as it and its magnitude come to. -/
theorem abs_neg_magnitude_sub {q : ℚ} (hq : 0 ≤ q) (rank : Nat) :
    |-magnitude rank - q| = magnitude rank + q := by
  have hrank := magnitude_nonneg rank
  rw [abs_of_nonpos (by linarith)]
  ring

/-- So it is as far off as its magnitude, or farther. -/
theorem abs_magnitude_sub_le {q : ℚ} (hq : 0 ≤ q) (rank : Nat) :
    |magnitude rank - q| ≤ |-magnitude rank - q| := by
  have hrank := magnitude_nonneg rank
  rw [abs_neg_magnitude_sub hq, abs_le]
  constructor
  · linarith
  · linarith

/-- **Rounding to nearest, ties to even.** -/
theorem isNearest_rankOfRatio (hden : 0 < den) (num : Nat) :
    IsNearest (num / den) (rankOfRatio (num * unitsPerOne) den) := by
  have hscale : (0 : ℚ) < unitsPerOne * den :=
    mul_pos cast_unitsPerOne_pos (by exact_mod_cast hden)
  have hq : (0 : ℚ) ≤ num / den := div_nonneg (Nat.cast_nonneg _) (Nat.cast_nonneg _)
  have hnear := fun rank => rankOfRatio_nearest (num * unitsPerOne) hden rank
  generalize rankOfRatio (num * unitsPerOne) den = rank at hnear ⊢
  have hle : ∀ other, |magnitude rank - num / den| ≤ |magnitude other - num / den| := by
    intro other
    rw [abs_magnitude_sub hden, abs_magnitude_sub hden, div_le_div_iff_of_pos_right hscale]
    exact_mod_cast (hnear other).1
  have heven : ∀ other, magnitude other ≠ magnitude rank →
      |magnitude other - num / den| = |magnitude rank - num / den| → rank % 2 = 0 := by
    intro other hne heq
    rw [abs_magnitude_sub hden, abs_magnitude_sub hden, div_left_inj' hscale.ne'] at heq
    refine (hnear other).2 (fun h => hne (congrArg magnitude h)) ?_
    exact_mod_cast heq
  have hmirror := abs_magnitude_sub_le hq
  constructor
  · intro x v hx
    cases x with
    | nan => cases hx
    | infinite _ => cases hx
    | finite negative other =>
      cases hx
      cases negative with
      | false => exact hle other
      | true => exact (hle other).trans (hmirror other)
  · intro x v hx hne heq
    cases x with
    | nan => cases hx
    | infinite _ => cases hx
    | finite negative other =>
      cases hx
      cases negative with
      | false => exact heven other hne heq
      | true =>
        have hsame : |magnitude other - num / den| = |magnitude rank - num / den| :=
          le_antisymm ((hmirror other).trans_eq heq) (hle other)
        apply heven other _ hsame
        intro hmag
        -- then zero would be nearer
        have hzero := hle 0
        have hrank := magnitude_nonneg rank
        rw [← heq, if_pos rfl, abs_neg_magnitude_sub hq, magnitude_zero, zero_sub, abs_neg, abs_of_nonneg hq] at hzero
        apply hne
        rw [if_pos rfl]
        linarith

/-- Halfway between two doubles, the even one is taken. -/
example : ofInt (2 ^ 53 + 1) = ofInt (2 ^ 53) := by decide +kernel

end SessionPlan.Binary64
