/-
Reading numerals.

A decimal is read as a quotient, with a power of ten on one side of it or on the other. So zeros at
the end of its digits make no difference, if the exponent makes up for them. The reader of numerals
takes the digits on both sides of the point for one sequence and lowers the exponent by the number
of those behind it; what it comes to is the decimal of these digits, wherever the point stands. The
words for numbers without digits are out of the question as soon as there is a digit in front.
-/
import SessionPlan.Binary64.Numeral
import SessionPlan.Proofs.Rounding

set_option autoImplicit false

namespace SessionPlan.Binary64

variable {negative : Bool} {n k : Nat} {exponent : Int}

/-! ## Decimals -/

/-- A decimal that is not settled by its order of magnitude is a quotient. -/
theorem ofDecimal_eq_ofRatio (hne : n ≠ 0)
    (hlow : -330 ≤ exponent + (Nat.toDigits 10 n).length)
    (hhigh : exponent + (Nat.toDigits 10 n).length ≤ 310) :
    ofDecimal negative n exponent
      = ofRatio negative (n * 10 ^ exponent.toNat) (10 ^ (-exponent).toNat) := by
  rw [ofDecimal, if_neg hne, if_neg (Int.not_lt.mpr hhigh), if_neg (Int.not_lt.mpr hlow)]
  split
  next hwhole =>
    have hzero : (-exponent).toNat = 0 := by omega
    rw [hzero, Nat.pow_zero]
    rfl
  next hpart =>
    have hzero : exponent.toNat = 0 := by omega
    rw [hzero, Nat.pow_zero, Nat.mul_one]
    rfl

theorem ofDecimal_of_eq_zero (exponent : Int) : ofDecimal negative 0 exponent = ofRank negative 0 :=
  rfl

/-- A zero behind a number is one more digit. -/
theorem length_toDigits_mul_pow (hne : n ≠ 0) (k : Nat) :
    (Nat.toDigits 10 (n * 10 ^ k)).length = (Nat.toDigits 10 n).length + k := by
  induction k with
  | zero => rw [Nat.pow_zero, Nat.mul_one, Nat.add_zero]
  | succ k ih =>
    have hpos : 0 < n * 10 ^ k := Nat.mul_pos (Nat.pos_of_ne_zero hne) (Nat.pow_pos (by decide))
    have hdigits := Nat.toDigits_append_toDigits (b := 10) (by decide) hpos (d := 0) (by decide)
    have hsucc : n * 10 ^ (k + 1) = 10 * (n * 10 ^ k) + 0 := by
      rw [Nat.pow_succ]
      ring
    rw [hsucc, ← hdigits, List.length_append, ih]
    rfl

/-- **Zeros at the end** of the digits make no difference, if the exponent makes up for them. -/
theorem ofDecimal_mul_pow (n k : Nat) (exponent : Int) :
    ofDecimal negative (n * 10 ^ k) (exponent - k) = ofDecimal negative n exponent := by
  by_cases hzero : n = 0
  · rw [hzero, Nat.zero_mul, ofDecimal_of_eq_zero, ofDecimal_of_eq_zero]
  have hne : n * 10 ^ k ≠ 0 := Nat.mul_ne_zero hzero (Nat.pow_pos (by decide)).ne'
  have hplaces : exponent - k + (Nat.toDigits 10 (n * 10 ^ k)).length
      = exponent + (Nat.toDigits 10 n).length := by
    rw [length_toDigits_mul_pow hzero]
    omega
  by_cases hhigh : 310 < exponent + (Nat.toDigits 10 n).length
  · simp only [ofDecimal, if_neg hne, if_neg hzero, hplaces, if_pos hhigh]
  by_cases hlow : exponent + (Nat.toDigits 10 n).length < -330
  · simp only [ofDecimal, if_neg hne, if_neg hzero, hplaces, if_neg hhigh, if_pos hlow]
  · have hpowers : k + (exponent - k).toNat + (-exponent).toNat
        = exponent.toNat + (-(exponent - k)).toNat := by omega
    have hcross : n * 10 ^ k * 10 ^ (exponent - k).toNat * unitsPerOne * 10 ^ (-exponent).toNat
        = n * 10 ^ exponent.toNat * unitsPerOne * 10 ^ (-(exponent - k)).toNat := by
      calc n * 10 ^ k * 10 ^ (exponent - k).toNat * unitsPerOne * 10 ^ (-exponent).toNat
          = n * unitsPerOne * 10 ^ (k + (exponent - k).toNat + (-exponent).toNat) := by
            rw [Nat.pow_add, Nat.pow_add]
            ring
        _ = n * 10 ^ exponent.toNat * unitsPerOne * 10 ^ (-(exponent - k)).toNat := by
            rw [hpowers, Nat.pow_add]
            ring
    rw [ofDecimal_eq_ofRatio hzero (Int.not_lt.mp hlow) (Int.not_lt.mp hhigh),
      ofDecimal_eq_ofRatio hne (hplaces ▸ Int.not_lt.mp hlow) (hplaces ▸ Int.not_lt.mp hhigh),
      ofRatio, ofRatio,
      rankOfRatio_congr (Nat.pow_pos (by decide)) (Nat.pow_pos (by decide)) hcross]

/-! ## Digits -/

section Digits

variable {c : Char} {s digits whole fraction tail : List Char}

/-- A digit is its own lower case. -/
theorem toLower_of_isDigit (h : c.isDigit = true) : c.toLower = c := by
  have hdigit : c.toNat ≤ 57 := by
    have hbounds : 48 ≤ c.toNat ∧ c.toNat ≤ 57 := by
      simpa [Char.isDigit, UInt32.le_iff_toNat_le] using h
    exact hbounds.2
  refine dif_neg ?_
  rintro ⟨hupper, -⟩
  have hletter : 65 ≤ c.toNat := UInt32.le_iff_toNat_le.mp hupper
  omega

/-- No word has a digit in front. -/
theorem ofNumeral?_of_digit (hc : c.isDigit = true) (hsign : cutSign s = (negative, c :: tail)) :
    ofNumeral? s = readDigits? negative (c :: tail) := by
  have hword : ∀ (letter : Char) (rest : List Char), letter.isDigit = false →
      String.ofList ((c :: tail).map Char.toLower) ≠ String.ofList (letter :: rest) := by
    intro letter rest hletter heq
    have hhead := (List.cons.inj (String.ofList_injective heq)).1
    rw [toLower_of_isDigit hc] at hhead
    rw [hhead, hletter] at hc
    cases hc
  have hnan := hword 'n' ['a', 'n'] (by decide)
  have hinf := hword 'i' ['n', 'f'] (by decide)
  have hinfinity := hword 'i' ['n', 'f', 'i', 'n', 'i', 't', 'y'] (by decide)
  rw [ofNumeral?, hsign]
  dsimp only
  rw [if_neg hnan, if_neg (not_or.mpr ⟨hinf, hinfinity⟩)]

/-- A digit is no sign. -/
theorem cutSign_of_digit (hc : c.isDigit = true) : cutSign (c :: tail) = (false, c :: tail) := by
  unfold cutSign
  split
  next heq =>
    cases heq
    exact absurd hc (by decide)
  next heq =>
    cases heq
    exact absurd hc (by decide)
  next => rfl

/-- Digits end where something else begins. -/
theorem takeWhile_digits (hdigits : ∀ c ∈ digits, c.isDigit = true)
    (htail : ∀ c ∈ tail.head?, c.isDigit = false) :
    (digits ++ tail).takeWhile Char.isDigit = digits ∧
      (digits ++ tail).dropWhile Char.isDigit = tail := by
  rw [List.takeWhile_append_of_pos hdigits, List.dropWhile_append_of_pos hdigits]
  cases tail with
  | nil => exact ⟨List.append_nil digits, rfl⟩
  | cons c r =>
    have hc : ¬ c.isDigit = true := by
      rw [htail c rfl]
      exact Bool.false_ne_true
    rw [List.takeWhile_cons_of_neg hc, List.dropWhile_cons_of_neg hc, List.append_nil]
    exact ⟨rfl, rfl⟩

/-- **Digits with a point** are read as one sequence, of which those behind the point lower the
exponent. -/
theorem readDigits?_of_point (hwhole : ∀ c ∈ whole, c.isDigit = true)
    (hfraction : ∀ c ∈ fraction, c.isDigit = true) (htail : ∀ c ∈ tail.head?, c.isDigit = false)
    (hne : whole ≠ []) :
    readDigits? negative (whole ++ '.' :: (fraction ++ tail))
      = (readExponent? tail).map fun exponent =>
          ofDecimal negative (digitsValue (whole ++ fraction)) (exponent - fraction.length) := by
  have hpoint : ∀ c ∈ ('.' :: (fraction ++ tail)).head?, c.isDigit = false := by
    rintro c ⟨⟩
    decide
  obtain ⟨hfront, hbehind⟩ := takeWhile_digits hwhole hpoint
  obtain ⟨hfront', hbehind'⟩ := takeWhile_digits hfraction htail
  rw [readDigits?, hfront, hbehind]
  show (if whole = [] ∧ (fraction ++ tail).takeWhile Char.isDigit = [] then none
    else (readExponent? ((fraction ++ tail).dropWhile Char.isDigit)).map fun exponent =>
      ofDecimal negative (digitsValue (whole ++ (fraction ++ tail).takeWhile Char.isDigit))
        (exponent - ((fraction ++ tail).takeWhile Char.isDigit).length)) = _
  rw [hfront', hbehind', if_neg (fun h => hne h.1)]

/-- Digits without a point. -/
theorem readDigits?_of_no_point (hwhole : ∀ c ∈ whole, c.isDigit = true)
    (htail : ∀ c ∈ tail.head?, c.isDigit = false ∧ c ≠ '.') (hne : whole ≠ []) :
    readDigits? negative (whole ++ tail)
      = (readExponent? tail).map fun exponent =>
          ofDecimal negative (digitsValue whole) exponent := by
  obtain ⟨hfront, hbehind⟩ := takeWhile_digits hwhole fun c hc => (htail c hc).1
  rw [readDigits?, hfront, hbehind]
  split
  next fraction rest hsplit =>
    -- nothing behind the digits is a point
    split at hsplit
    next r =>
      exact absurd rfl (htail '.' rfl).2
    next =>
      cases hsplit
      rw [if_neg (fun h => hne h.1), List.append_nil]
      simp only [List.length_nil, Nat.cast_zero, Int.sub_zero]

end Digits

/-! ## Whole numbers -/

/-- A whole number in writing: a minus sign in front of its digits if it is negative. -/
theorem toList_toString (n : Int) :
    (toString n).toList = (if n < 0 then ['-'] else []) ++ Nat.toDigits 10 n.natAbs := by
  cases n with
  | ofNat m =>
    have hnonneg : ¬ Int.ofNat m < 0 := Int.not_lt.mpr (Int.natCast_nonneg m)
    rw [if_neg hnonneg]
    exact Nat.toList_repr
  | negSucc m =>
    have hwritten : toString (Int.negSucc m) = "-" ++ m.succ.repr := rfl
    rw [hwritten, String.toList_append, Nat.toList_repr, if_pos (Int.negSucc_lt_zero m)]
    rfl

theorem isDigit_of_mem_toDigits {c : Char} (h : c ∈ Nat.toDigits 10 n) : c.isDigit = true :=
  Nat.isDigit_of_mem_toDigits (by decide) (by decide) h

/-- Nothing but digits and a minus sign is written. -/
theorem forall_mem_toString {p : Char → Prop} (hdigit : ∀ c, c.isDigit = true → p c)
    (hminus : p '-') (n : Int) : ∀ c ∈ (toString n).toList, p c := by
  intro c hc
  rw [toList_toString] at hc
  rcases List.mem_append.mp hc with hsign | hc
  · split at hsign
    next => exact List.mem_singleton.mp hsign ▸ hminus
    next => exact absurd hsign List.not_mem_nil
  · exact hdigit c (isDigit_of_mem_toDigits hc)

/-- A digit stands in front. -/
theorem exists_digit_of_toDigits (n : Nat) :
    ∃ c r, Nat.toDigits 10 n = c :: r ∧ c.isDigit = true := by
  obtain ⟨c, r, hdigits⟩ := List.exists_cons_of_ne_nil (Nat.toDigits_ne_nil (n := n) (b := 10))
  exact ⟨c, r, hdigits, isDigit_of_mem_toDigits (hdigits ▸ List.mem_cons_self)⟩

theorem digitsValue_toDigits (n : Nat) : digitsValue (Nat.toDigits 10 n) = n :=
  Nat.ofDigitChars_toDigits (by decide) (by decide)

/-- The sign of a whole number is cut off, and its digits are left. -/
theorem cutSign_toString (n : Int) :
    cutSign (toString n).toList = (decide (n < 0), Nat.toDigits 10 n.natAbs) := by
  rw [toList_toString]
  by_cases hneg : n < 0
  · rw [if_pos hneg, decide_eq_true hneg]
    rfl
  · obtain ⟨c, r, hdigits, hc⟩ := exists_digit_of_toDigits n.natAbs
    rw [if_neg hneg, decide_eq_false hneg, List.nil_append, hdigits]
    exact cutSign_of_digit hc

/-- An exponent in writing is read as the number. -/
theorem readExponent?_toString (n : Int) :
    readExponent? ('e' :: (toString n).toList) = some n := by
  have hall : (Nat.toDigits 10 n.natAbs).all Char.isDigit = true :=
    List.all_eq_true.mpr fun c hc => isDigit_of_mem_toDigits hc
  rw [readExponent?, cutSign_toString]
  dsimp only
  rw [if_pos ⟨Or.inl rfl, Nat.toDigits_ne_nil, hall⟩, digitsValue_toDigits]
  by_cases hneg : n < 0
  · rw [if_pos (decide_eq_true hneg)]
    congr 1
    omega
  · rw [if_neg (by simpa using hneg)]
    congr 1
    omega

/-- A number of few digits is not settled by its order of magnitude. -/
theorem ofDecimal_of_whole {m : Nat} (hm : m < 10 ^ 20) :
    ofDecimal negative m 0 = ofRatio negative m 1 := by
  have hplaces : (Nat.toDigits 10 m).length ≤ 20 :=
    (Nat.length_toDigits_le_iff (by decide) (by decide)).mpr hm
  by_cases hzero : m = 0
  · rw [hzero, ofDecimal_of_eq_zero, ofRatio, Nat.zero_mul, show rankOfRatio 0 1 = 0 by decide]
  · rw [ofDecimal_eq_ofRatio hzero (by omega) (by omega)]
    exact congrArg (fun m => ofRatio negative m 1) (Nat.mul_one m)

/-- **A whole number in writing** is read as the number. -/
theorem ofNumeral?_toString {n : Int} (hn : n.natAbs < 10 ^ 20) :
    ofNumeral? (toString n).toList = some (ofInt n) := by
  have hsign := cutSign_toString n
  have hread : readDigits? (decide (n < 0)) (Nat.toDigits 10 n.natAbs ++ []) = _ :=
    readDigits?_of_no_point (fun c hc => isDigit_of_mem_toDigits hc) nofun Nat.toDigits_ne_nil
  rw [List.append_nil, digitsValue_toDigits] at hread
  obtain ⟨c, r, hdigits, hc⟩ := exists_digit_of_toDigits n.natAbs
  rw [hdigits] at hsign hread
  rw [ofNumeral?_of_digit hc hsign, hread, ofInt, readExponent?,
    Option.map_some, ofDecimal_of_whole hn]

/-- The sign stands in front. -/
example : ofNumeral? "-12".toList = some (ofInt (-12)) := by decide +kernel

end SessionPlan.Binary64
