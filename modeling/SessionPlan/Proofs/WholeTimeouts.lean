/-
Whole timeouts, as numbers and as texts.

The decimal text of a whole number is read as the number, and white space around it is trimmed off,
so both come to the same double. What is left of a 64-bit number is finite, it is the nearest
double, and it is positive exactly if the number was.
-/
import SessionPlan.Plan
import SessionPlan.Proofs.Numerals
import SessionPlan.Proofs.PortGrammar

set_option autoImplicit false

namespace SessionPlan

namespace Binary64

/-! ## Whole numbers, rounded -/

theorem isPositive_ofRank_of_negative (rank : Nat) : (ofRank true rank).isPositive = false := by
  rw [ofRank]
  split
  next => rfl
  next => rfl

/-- Nothing positive comes of a number that is not positive. -/
theorem isPositive_ofInt_of_nonpos {n : Int} (h : n ≤ 0) : (ofInt n).isPositive = false := by
  rcases Int.lt_or_eq_of_le h with hneg | rfl
  · rw [ofInt, ofRatio, decide_eq_true hneg]
    exact isPositive_ofRank_of_negative _
  · decide

/-- The rank of the number one. -/
def oneRank : Nat := (unitExponent - 52 + 1) * binade

theorem magnitude_oneRank : magnitude oneRank = 1 := by
  have hexponent : unitExponent = 52 + (unitExponent - 52) := by decide
  have hunits : units oneRank = unitsPerOne := by
    rw [oneRank, units_succ_mul_binade, unitsPerOne_eq, binade_eq, ← Nat.pow_add, ← hexponent]
  rw [magnitude, hunits, div_self cast_unitsPerOne_pos.ne']

/-- A positive 64-bit number stays finite. -/
theorem rankOfRatio_lt_infiniteRank {m : Nat} (hm : m < 2 ^ 63) :
    rankOfRatio (m * unitsPerOne) 1 < infiniteRank := by
  have hbound : m * unitsPerOne / 1 < 2 ^ (53 + (unitExponent + 10)) := by
    have hexponent : 53 + (unitExponent + 10) = 63 + unitExponent := by omega
    rw [Nat.div_one, hexponent, Nat.pow_add, ← unitsPerOne_eq]
    exact Nat.mul_lt_mul_of_pos_right hm unitsPerOne_pos
  calc rankOfRatio (m * unitsPerOne) 1 ≤ (unitExponent + 10 + 2) * binade :=
        rankOfRatio_le Nat.one_pos hbound
    _ < infiniteRank := Nat.mul_lt_mul_of_pos_right (by decide) binade_pos

/-- **A positive 64-bit number** is rounded to the nearest double, which is positive. -/
theorem exists_ofInt_of_pos {n : Int} (hpos : 0 < n) (hn : n < 2 ^ 63) :
    ∃ rank : Fin infiniteRank, ofInt n = .finite false rank ∧ rank.val ≠ 0 ∧
      IsNearest n rank := by
  obtain ⟨m, rfl⟩ := Int.eq_ofNat_of_zero_le hpos.le
  have hfinite : rankOfRatio (m * unitsPerOne) 1 < infiniteRank :=
    rankOfRatio_lt_infiniteRank (by omega)
  have hnearest : IsNearest (m : Int) (rankOfRatio (m * unitsPerOne) 1) := by
    have hquot := isNearest_rankOfRatio Nat.one_pos m
    rwa [Nat.cast_one, div_one] at hquot
  refine ⟨⟨_, hfinite⟩, ?_, ?_, hnearest⟩
  · rw [ofInt, ofRatio, decide_eq_false (Int.not_lt.mpr hpos.le), ofRank, Int.natAbs_natCast,
      dif_pos hfinite]
  · -- one is nearer than zero
    intro hzero
    have hlt : oneRank < infiniteRank := by decide
    have hle := hnearest.le (.finite false ⟨oneRank, hlt⟩) _ rfl
    have hone : (1 : ℚ) ≤ (m : Int) := by exact_mod_cast hpos
    rw [if_neg Bool.false_ne_true, magnitude_oneRank, show rankOfRatio (m * unitsPerOne) 1 = 0
      from hzero, magnitude_zero, zero_sub, abs_neg, abs_of_pos (by linarith),
      abs_of_nonpos (by linarith)] at hle
    linarith

end Binary64

/-! ## Timeouts -/

namespace CommandTimeout

/-- White space around the text of a whole number is trimmed off. -/
theorem trim_toString {before after : List Char} (hbefore : ∀ c ∈ before, Text.isBlank c = true)
    (hafter : ∀ c ∈ after, Text.isBlank c = true) (n : Int) :
    Text.trim (before ++ (toString n).toList ++ after) = (toString n).toList := by
  apply Text.trim_append hbefore hafter
  · rw [Binary64.toList_toString]
    exact List.append_ne_nil_of_right_ne_nil _ Nat.toDigits_ne_nil
  · exact Binary64.forall_mem_toString (fun c hc => Text.isBlank_of_isDigit hc) (by decide) n

/-- **Number and text** name the same seconds. -/
theorem number?_numeral {before after : List Char} (hbefore : ∀ c ∈ before, Text.isBlank c = true)
    (hafter : ∀ c ∈ after, Text.isBlank c = true) {n : Int} (hn : n.natAbs < 10 ^ 20) :
    (numeral (String.ofList (before ++ (toString n).toList ++ after))).number?
      = (whole n).number? := by
  simp only [number?, String.toList_ofList, trim_toString hbefore hafter,
    Binary64.ofNumeral?_toString hn]

end CommandTimeout

namespace ClientSettings

variable {timeout : CommandTimeout}

theorem ofTimeout_of_positive {x : Binary64} (hnumber : timeout.number? = some x)
    (hpositive : x.isPositive = true) : ofTimeout (some timeout) = .ok ⟨some x⟩ := by
  rw [ofTimeout, CommandTimeout.seconds?, hnumber, Option.filter_some, if_pos hpositive]

/-- A refused timeout is reported as it was given. -/
theorem ofTimeout_of_not_positive {x : Binary64} (hnumber : timeout.number? = some x)
    (hpositive : x.isPositive = false) :
    ofTimeout (some timeout) = .error (.invalidCommandTimeout timeout.shown) := by
  rw [ofTimeout, CommandTimeout.seconds?, hnumber, Option.filter_some, hpositive,
    if_neg Bool.false_ne_true]

end ClientSettings

/-- **Whole timeouts.** A 64-bit number of seconds and its decimal text, with any white space around
it, are both refused, each as it was given, if the number is not greater than zero. Otherwise both
are accepted as the same double, the nearest to the number, and of two equally near ones the one
whose last bit is zero. -/
theorem whole_timeout_as_text {n : Int} (hlower : -2 ^ 63 ≤ n) (hupper : n < 2 ^ 63)
    {before after : List Char} (hbefore : ∀ c ∈ before, Text.isBlank c = true)
    (hafter : ∀ c ∈ after, Text.isBlank c = true) :
    let number := CommandTimeout.whole n
    let text := CommandTimeout.numeral (String.ofList (before ++ (toString n).toList ++ after))
    (n ≤ 0 →
      ClientSettings.ofTimeout (some number) = .error (.invalidCommandTimeout number.shown) ∧
      ClientSettings.ofTimeout (some text) = .error (.invalidCommandTimeout text.shown)) ∧
    (0 < n → ∃ rank : Fin Binary64.infiniteRank,
      ClientSettings.ofTimeout (some number) = .ok ⟨some (.finite false rank)⟩ ∧
      ClientSettings.ofTimeout (some text) = .ok ⟨some (.finite false rank)⟩ ∧
      Binary64.IsNearest n rank) := by
  intro number text
  have hnumber : number.number? = some (Binary64.ofInt n) := rfl
  have htext : text.number? = some (Binary64.ofInt n) :=
    CommandTimeout.number?_numeral hbefore hafter (by omega)
  constructor
  · intro hnonpos
    have hrefused := Binary64.isPositive_ofInt_of_nonpos hnonpos
    exact ⟨ClientSettings.ofTimeout_of_not_positive hnumber hrefused,
      ClientSettings.ofTimeout_of_not_positive htext hrefused⟩
  · intro hpos
    obtain ⟨rank, hrank, hne, hnearest⟩ := Binary64.exists_ofInt_of_pos hpos hupper
    have haccepted : (Binary64.finite false rank).isPositive = true := by
      simp [Binary64.isPositive, hne]
    rw [hrank] at hnumber htext
    exact ⟨rank, ClientSettings.ofTimeout_of_positive hnumber haccepted,
      ClientSettings.ofTimeout_of_positive htext haccepted, hnearest⟩

/-- A number halfway between two doubles, of which the lower one has an even rank, and zero. -/
theorem whole_timeout_as_text_of_tie :
    let before : List Char := [' ']
    let after : List Char := ['\u2003', '\n']
    (∀ c ∈ before, Text.isBlank c = true) ∧ (∀ c ∈ after, Text.isBlank c = true) ∧
      (∃ rank : Fin Binary64.infiniteRank,
        ClientSettings.ofTimeout (some (.whole 9007199254740993))
          = .ok ⟨some (.finite false rank)⟩ ∧
        ClientSettings.ofTimeout (some (.numeral " 9007199254740993\u2003\n"))
          = .ok ⟨some (.finite false rank)⟩ ∧
        Binary64.finite false rank = Binary64.ofInt 9007199254740992 ∧
        Binary64.IsNearest (9007199254740993 : Int) rank) ∧
      ClientSettings.ofTimeout (some (.whole 0)) = .error (.invalidCommandTimeout "0") ∧
      ClientSettings.ofTimeout (some (.numeral " 0\u2003\n"))
        = .error (.invalidCommandTimeout "\" 0\\u{2003}\\n\"") := by
  intro before after
  have hbefore : ∀ c ∈ before, Text.isBlank c = true := by
    simpa [before] using by decide
  have hafter : ∀ c ∈ after, Text.isBlank c = true := by
    simpa [after] using by decide
  have htie : String.ofList (before ++ (toString (9007199254740993 : Int)).toList ++ after)
      = " 9007199254740993\u2003\n" := by decide +kernel
  have hzero : String.ofList (before ++ (toString (0 : Int)).toList ++ after)
      = " 0\u2003\n" := by decide +kernel
  have haccepted := (whole_timeout_as_text (n := 9007199254740993) (by omega) (by omega) hbefore
    hafter).2 (by omega)
  have hrefused := (whole_timeout_as_text (n := 0) (by omega) (by omega) hbefore hafter).1
    (by omega)
  rw [htie] at haccepted
  rw [hzero] at hrefused
  obtain ⟨rank, hnumber, htext, hnearest⟩ := haccepted
  have hrounded : ClientSettings.ofTimeout (some (.whole 9007199254740993))
      = .ok ⟨some (Binary64.ofInt 9007199254740992)⟩ := by decide +kernel
  have hrank : Binary64.finite false rank = Binary64.ofInt 9007199254740992 := by
    rw [hnumber] at hrounded
    simpa using hrounded
  have hshown : (CommandTimeout.whole 0).shown = "0" := by decide +kernel
  have hquoted : (CommandTimeout.numeral " 0\u2003\n").shown = "\" 0\\u{2003}\\n\"" := by
    decide +kernel
  rw [hshown, hquoted] at hrefused
  exact ⟨hbefore, hafter, ⟨rank, hnumber, htext, hrank, hnearest⟩, hrefused⟩

end SessionPlan
