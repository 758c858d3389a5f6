/-
Numbers in messages are numerals.

A message sets the shortest digits of a number with a point among them, with zeros to fill up where
the point stands outside, or with an exponent. Each way of setting a decimal is read as that decimal
again: the zeros in front do not count, those behind are made up for by the exponent, and the digits
behind the point lower it by their number. And the shortest decimal of a magnitude is rounded to it.
So what a message shows of a number is the number, whole: no two numbers are shown alike, and a
timeout that is copied from a message as text names the seconds that the number named.
-/
import SessionPlan.Plan
import SessionPlan.Proofs.PortText
import SessionPlan.Proofs.ShortestDigits

set_option autoImplicit false

namespace SessionPlan

namespace Binary64

variable {negative : Bool} {places exponent : Int}

/-! ## Digits with zeros -/

theorem isDigit_of_mem_zeros {c : Char} {n : Nat} (h : c ∈ List.replicate n '0') :
    c.isDigit = true := by
  rw [List.eq_of_mem_replicate h]
  decide

/-- Zeros in front do not count. -/
theorem digitsValue_zeros_append (n : Nat) (digits : List Char) :
    digitsValue (List.replicate n '0' ++ digits) = digitsValue digits := by
  rw [digitsValue, Nat.ofDigitChars_append, Nat.ofDigitChars_replicate_zero, Nat.mul_zero]
  rfl

/-- Zeros behind count tenfold each. -/
theorem digitsValue_append_zeros (digits : List Char) (n : Nat) :
    digitsValue (digits ++ List.replicate n '0') = digitsValue digits * 10 ^ n := by
  rw [digitsValue, Nat.ofDigitChars_append, Nat.ofDigitChars_replicate_zero, Nat.mul_comm]
  rfl

/-! ## The two ways of setting a decimal -/

/-- Digits with a point among them, and nothing behind. -/
theorem readDigits?_of_fraction {whole fraction : List Char}
    (hwhole : ∀ c ∈ whole, c.isDigit = true) (hfraction : ∀ c ∈ fraction, c.isDigit = true)
    (hne : whole ≠ []) :
    readDigits? negative (whole ++ '.' :: fraction)
      = some (ofDecimal negative (digitsValue (whole ++ fraction)) (-(fraction.length : Int))) := by
  have hread : readDigits? negative (whole ++ '.' :: (fraction ++ [])) = _ :=
    readDigits?_of_point hwhole hfraction nofun hne
  rw [List.append_nil, readExponent?, Option.map_some, Int.zero_sub] at hread
  exact hread

/-- **Digits with a point** are read as the decimal, wherever the point stands. -/
theorem readDigits?_positional (k : Nat)
    (hplaces : places = exponent + (Nat.toDigits 10 k).length) :
    readDigits? negative (positional (Nat.toDigits 10 k) places)
      = some (ofDecimal negative k exponent) := by
  have hdigits : ∀ c ∈ Nat.toDigits 10 k, c.isDigit = true := fun c hc => isDigit_of_mem_toDigits hc
  have hvalue := digitsValue_toDigits k
  have hne : Nat.toDigits 10 k ≠ [] := Nat.toDigits_ne_nil
  generalize Nat.toDigits 10 k = digits at hplaces hdigits hvalue hne ⊢
  rw [positional]
  split
  next hfront =>
    -- in front of all digits: behind a zero, and before others that fill up
    have hfraction : ∀ c ∈ List.replicate (-places).toNat '0' ++ digits, c.isDigit = true := by
      intro c hc
      rcases List.mem_append.mp hc with hzero | hdigit
      · exact isDigit_of_mem_zeros hzero
      · exact hdigits c hdigit
    have hread : readDigits? negative
        (['0'] ++ '.' :: (List.replicate (-places).toNat '0' ++ digits)) = _ :=
      readDigits?_of_fraction (List.forall_mem_singleton.mpr rfl) hfraction (List.cons_ne_nil _ _)
    have hzeros : ['0'] ++ (List.replicate (-places).toNat '0' ++ digits)
        = List.replicate ((-places).toNat + 1) '0' ++ digits := rfl
    have hexponent : -((List.replicate (-places).toNat '0' ++ digits).length : Int) = exponent := by
      rw [List.length_append, List.length_replicate]
      omega
    rw [hzeros, digitsValue_zeros_append, hvalue, hexponent] at hread
    exact hread
  next hfront =>
    split
    next hbehind =>
      -- behind all digits: the zeros that fill up are made up for by the exponent
      obtain ⟨zeros, hzeros⟩ : ∃ zeros, places.toNat - digits.length = zeros := ⟨_, rfl⟩
      have hwhole : ∀ c ∈ digits ++ List.replicate zeros '0', c.isDigit = true := by
        intro c hc
        rcases List.mem_append.mp hc with hdigit | hzero
        · exact hdigits c hdigit
        · exact isDigit_of_mem_zeros hzero
      have hread : readDigits? negative (digits ++ List.replicate zeros '0' ++ ['.', '0']) = _ :=
        readDigits?_of_fraction hwhole (List.forall_mem_singleton.mpr rfl)
          (List.append_ne_nil_of_left_ne_nil hne _)
      have hall : digits ++ List.replicate zeros '0' ++ ['0']
          = digits ++ List.replicate (zeros + 1) '0' := by
        rw [List.append_assoc, List.replicate_succ']
      have hexponent : -((['0'] : List Char).length : Int) = exponent - (zeros + 1 : Nat) := by
        rw [List.length_singleton]
        omega
      rw [hall, digitsValue_append_zeros, hvalue, hexponent, ofDecimal_mul_pow] at hread
      rw [hzeros]
      exact hread
    next hbehind =>
      -- among the digits
      have hlength : (digits.take places.toNat).length = places.toNat := by
        rw [List.length_take]
        omega
      have hread : readDigits? negative
          (digits.take places.toNat ++ '.' :: digits.drop places.toNat) = _ :=
        readDigits?_of_fraction (fun c hc => hdigits c (List.mem_of_mem_take hc))
          (fun c hc => hdigits c (List.mem_of_mem_drop hc))
          (List.ne_nil_of_length_pos (by omega))
      have hexponent : -((digits.drop places.toNat).length : Int) = exponent := by
        rw [List.length_drop]
        omega
      rw [List.take_append_drop, hvalue, hexponent] at hread
      exact hread

/-- **Digits with an exponent** are read as the decimal, whether there is a point or not. -/
theorem readDigits?_scientific (k : Nat)
    (hplaces : places = exponent + (Nat.toDigits 10 k).length) :
    readDigits? negative (scientific (Nat.toDigits 10 k) (places - 1))
      = some (ofDecimal negative k exponent) := by
  have hdigits : ∀ c ∈ Nat.toDigits 10 k, c.isDigit = true := fun c hc => isDigit_of_mem_toDigits hc
  have hvalue := digitsValue_toDigits k
  have hne : Nat.toDigits 10 k ≠ [] := Nat.toDigits_ne_nil
  generalize Nat.toDigits 10 k = digits at hplaces hdigits hvalue hne ⊢
  unfold scientific
  split
  next => exact absurd rfl hne
  next d =>
    have hend : ∀ c ∈ ('e' :: (toString (places - 1)).toList).head?,
        c.isDigit = false ∧ c ≠ '.' := by
      rintro c ⟨⟩
      decide
    have hexponent : places - 1 = exponent := by
      rw [hplaces, List.length_singleton]
      omega
    rw [readDigits?_of_no_point hdigits hend hne, readExponent?_toString, Option.map_some, hvalue,
      hexponent]
  next d r hr =>
    have hend : ∀ c ∈ ('e' :: (toString (places - 1)).toList).head?, c.isDigit = false := by
      rintro c ⟨⟩
      decide
    obtain ⟨hd, hr⟩ := List.forall_mem_cons.mp hdigits
    have hread : readDigits? negative
        ([d] ++ '.' :: (r ++ 'e' :: (toString (places - 1)).toList)) = _ :=
      readDigits?_of_point (List.forall_mem_singleton.mpr hd) hr hend (List.cons_ne_nil d [])
    have hexponent : places - 1 - (r.length : Int) = exponent := by
      rw [hplaces, List.length_cons]
      omega
    rw [readExponent?_toString, Option.map_some, List.singleton_append, List.singleton_append,
      hvalue, hexponent] at hread
    exact hread

/-- **A decimal that is set** is read as the decimal, whatever the layout. -/
theorem readDigits?_set (d : Decimal) (layout : Layout) :
    readDigits? negative (d.set layout) = some (ofDecimal negative d.coefficient d.exponent) := by
  rw [Decimal.set]
  split
  next => exact readDigits?_positional d.coefficient (by omega)
  next => exact readDigits?_scientific d.coefficient rfl

theorem exists_digit_of_set (d : Decimal) (layout : Layout) :
    ∃ c r, d.set layout = c :: r ∧ c.isDigit = true := by
  obtain ⟨c, r, hdigits, hc⟩ := exists_digit_of_toDigits d.coefficient
  rw [Decimal.set, hdigits]
  split
  next =>
    rw [positional]
    split
    next => exact ⟨'0', _, rfl, by decide⟩
    next hfront =>
      split
      next => exact ⟨c, _, rfl, hc⟩
      next =>
        obtain ⟨n, hn⟩ : ∃ n, (d.exponent + (c :: r).length - 1 + 1).toNat = n + 1 :=
          ⟨_, (Nat.succ_pred_eq_of_pos (by omega)).symm⟩
        rw [hn]
        exact ⟨c, _, rfl, hc⟩
  next =>
    unfold scientific
    split
    next heq => cases heq
    next heq =>
      cases heq
      exact ⟨c, _, rfl, hc⟩
    next heq =>
      cases heq
      exact ⟨c, _, rfl, hc⟩

/-! ## Nothing else is set

A property of digits, the point, the minus sign and the letter `e` is one of all characters that are
set. -/

section Characters

variable {p : Char → Prop} {digits : List Char}

theorem forall_mem_positional (hdigit : ∀ c, c.isDigit = true → p c) (hpoint : p '.')
    (hdigits : ∀ c ∈ digits, p c) : ∀ c ∈ positional digits places, p c := by
  have hzero : p '0' := hdigit '0' (by decide)
  have hzeros : ∀ n, ∀ c ∈ List.replicate n '0', p c :=
    fun n c hc => hdigit c (isDigit_of_mem_zeros hc)
  rw [positional]
  split
  next =>
    exact List.forall_mem_append.mpr
      ⟨List.forall_mem_cons.mpr ⟨hzero, List.forall_mem_cons.mpr ⟨hpoint, hzeros _⟩⟩, hdigits⟩
  next =>
    split
    next =>
      have hend : ∀ c ∈ ['.', '0'], p c :=
        List.forall_mem_cons.mpr ⟨hpoint, List.forall_mem_singleton.mpr hzero⟩
      exact List.forall_mem_append.mpr
        ⟨List.forall_mem_append.mpr ⟨hdigits, hzeros _⟩, hend⟩
    next =>
      have hfraction : ∀ c ∈ digits.drop places.toNat, p c :=
        fun c hc => hdigits c (List.mem_of_mem_drop hc)
      exact List.forall_mem_append.mpr
        ⟨fun c hc => hdigits c (List.mem_of_mem_take hc),
          List.forall_mem_cons.mpr ⟨hpoint, hfraction⟩⟩

theorem forall_mem_scientific (hpoint : p '.') (he : p 'e')
    (hexponent : ∀ c ∈ (toString exponent).toList, p c) (hdigits : ∀ c ∈ digits, p c) :
    ∀ c ∈ scientific digits exponent, p c := by
  have hend : ∀ c ∈ 'e' :: (toString exponent).toList, p c :=
    List.forall_mem_cons.mpr ⟨he, hexponent⟩
  unfold scientific
  split
  next => exact hend
  next => exact List.forall_mem_append.mpr ⟨hdigits, hend⟩
  next =>
    obtain ⟨hd, hr⟩ := List.forall_mem_cons.mp hdigits
    exact List.forall_mem_append.mpr
      ⟨List.forall_mem_cons.mpr ⟨hd, List.forall_mem_cons.mpr ⟨hpoint, hr⟩⟩, hend⟩

theorem forall_mem_set (hdigit : ∀ c, c.isDigit = true → p c) (hpoint : p '.') (hminus : p '-')
    (he : p 'e') (d : Decimal) (layout : Layout) : ∀ c ∈ d.set layout, p c := by
  have hdigits : ∀ c ∈ Nat.toDigits 10 d.coefficient, p c :=
    fun c hc => hdigit c (isDigit_of_mem_toDigits hc)
  rw [Decimal.set]
  split
  next => exact forall_mem_positional hdigit hpoint hdigits
  next => exact forall_mem_scientific hpoint he (forall_mem_toString hdigit hminus _) hdigits

end Characters

/-! ## Numbers -/

/-- **What is shown is the number.** A number that is shown in a message is read back as it was,
bit by bit, the sign of a zero included. -/
theorem ofNumeral?_shown (x : Binary64) : ofNumeral? x.shown.toList = some x := by
  cases x with
  | nan => decide +kernel
  | infinite negative =>
    cases negative with
    | true => decide +kernel
    | false => decide +kernel
  | finite negative rank =>
    obtain ⟨c, r, hset, hc⟩ := exists_digit_of_set (shortest rank.val) messageLayout
    have hsign : cutSign (finite negative rank).shown.toList = (negative, c :: r) := by
      rw [shown, String.toList_ofList, hset]
      cases negative with
      | true => rfl
      | false => exact cutSign_of_digit hc
    rw [ofNumeral?_of_digit hc hsign, ← hset, readDigits?_set,
      ofDecimal_shortest negative rank.isLt, ofRank, dif_pos rank.isLt]

/-- The smallest number, and one above the last that is set without an exponent. -/
example : [ofRank false 1, ofDecimal true 1 16].map shown = ["5e-324", "-1e16"] := by decide +kernel

/-- **No two numbers are shown alike.** -/
theorem shown_injective : Function.Injective shown := by
  intro x y h
  have hread := ofNumeral?_shown x
  rw [h, ofNumeral?_shown] at hread
  exact (Option.some.inj hread).symm

theorem isBlank_of_all {s : List Char} (h : s.all (!Text.isBlank ·) = true) :
    ∀ c ∈ s, Text.isBlank c = false := by
  intro c hc
  exact (Bool.not_eq_true' _).mp (List.all_eq_true.mp h c hc)

/-- What is shown holds no white space. -/
theorem isBlank_of_mem_shown {c : Char} {x : Binary64} (h : c ∈ x.shown.toList) :
    Text.isBlank c = false := by
  cases x with
  | nan => exact isBlank_of_all (by decide) c h
  | infinite negative =>
    cases negative with
    | true => exact isBlank_of_all (by decide) c h
    | false => exact isBlank_of_all (by decide) c h
  | finite negative rank =>
    rw [shown, String.toList_ofList] at h
    rcases List.mem_append.mp h with hsign | hset
    · split at hsign
      next =>
        rw [List.mem_singleton.mp hsign]
        decide
      next => exact absurd hsign List.not_mem_nil
    · exact forall_mem_set (fun c hc => Text.isBlank_of_isDigit hc) (by decide) (by decide)
        (by decide) _ messageLayout c hset

end Binary64

/-! ## Timeouts in messages -/

namespace CommandTimeout

/-- **A number as a message shows it**, given as a text, names the same seconds. -/
theorem number?_numeral_shown (x : Binary64) : (numeral x.shown).number? = (real x).number? := by
  have htrim : Text.trim x.shown.toList = x.shown.toList :=
    Text.trim_eq_self (fun c hc => Binary64.isBlank_of_mem_shown (List.mem_of_mem_head? hc))
      (fun c hc => Binary64.isBlank_of_mem_shown (List.mem_of_getLast? hc))
  simp only [number?, htrim, Binary64.ofNumeral?_shown]

end CommandTimeout

end SessionPlan
