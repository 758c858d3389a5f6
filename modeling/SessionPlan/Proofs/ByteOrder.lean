/-
Texts are ordered as their bytes are.

Texts are compared character by character, and bytes one by one, in both cases with a proper prefix
in front. In UTF-8 the two orders agree. Of two characters the one with more bytes has the greater
first byte; and where both have equally many, the bytes hold the digits of the characters in base
64, the highest digit first. So the encodings of two characters differ at some byte, and that byte
settles the order whatever follows.
-/
import SessionPlan.Proofs.Utf8
import SessionPlan.TextMap

set_option autoImplicit false

namespace SessionPlan.Text.Utf8

/-! ## One character -/

/-- The bytes that two numbers name settle the order, and if they are the same byte, what follows. -/
theorem cons_lt_cons_of_le {m n : Nat} (h : m ≤ n) (hn : n < 256) {r r' : List UInt8}
    (hrest : m = n → r < r') : UInt8.ofNat m :: r < UInt8.ofNat n :: r' := by
  rw [List.cons_lt_cons_iff, UInt8.lt_iff_toNat_lt,
    UInt8.toNat_ofNat_of_lt' (show m < 256 by omega), UInt8.toNat_ofNat_of_lt' hn]
  rcases Nat.lt_or_eq_of_le h with hlt | heq
  · exact Or.inl hlt
  · exact Or.inr ⟨congrArg _ heq, hrest heq⟩

/-- **The order of two characters** is that of their encodings, whatever follows. -/
theorem utf8EncodeChar_append_lt {c d : Char} (h : c < d) (r r' : List UInt8) :
    String.utf8EncodeChar c ++ r < String.utf8EncodeChar d ++ r' := by
  have hlt : c.val.toNat < d.val.toNat := UInt32.lt_iff_toNat_lt.mp h
  have hvalid : d.val.toNat < 0xD800 ∨ 0xDFFF < d.val.toNat ∧ d.val.toNat < 0x110000 := d.valid
  -- either character has one of four lengths, and that of `d` is not the lesser one
  generalize hv : c.val.toNat = v at hlt
  generalize hw : d.val.toNat = w at hlt hvalid
  rw [String.utf8EncodeChar, String.utf8EncodeChar, hv, hw]
  split
  next hv1 =>
    split
    next => exact cons_lt_cons_of_le (by omega) (by omega) (by omega)
    next =>
      split
      next => exact cons_lt_cons_of_le (by omega) (by omega) (by omega)
      next =>
        split
        next => exact cons_lt_cons_of_le (by omega) (by omega) (by omega)
        next => exact cons_lt_cons_of_le (by omega) (by omega) (by omega)
  next hv1 =>
    rw [if_neg (show ¬ w ≤ 0x7F by omega)]
    split
    next hv2 =>
      split
      next hw2 =>
        refine cons_lt_cons_of_le (by omega) (by omega) fun hfirst => ?_
        exact cons_lt_cons_of_le (by omega) (by omega) (by omega)
      next =>
        split
        next => exact cons_lt_cons_of_le (by omega) (by omega) (by omega)
        next => exact cons_lt_cons_of_le (by omega) (by omega) (by omega)
    next hv2 =>
      rw [if_neg (show ¬ w ≤ 0x7FF by omega)]
      split
      next hv3 =>
        split
        next hw3 =>
          refine cons_lt_cons_of_le (by omega) (by omega) fun hfirst => ?_
          refine cons_lt_cons_of_le (by omega) (by omega) fun hsecond => ?_
          exact cons_lt_cons_of_le (by omega) (by omega) (by omega)
        next => exact cons_lt_cons_of_le (by omega) (by omega) (by omega)
      next hv3 =>
        rw [if_neg (show ¬ w ≤ 0xFFFF by omega)]
        refine cons_lt_cons_of_le (by omega) (by omega) fun hfirst => ?_
        refine cons_lt_cons_of_le (by omega) (by omega) fun hsecond => ?_
        refine cons_lt_cons_of_le (by omega) (by omega) fun hthird => ?_
        exact cons_lt_cons_of_le (by omega) (by omega) (by omega)

/-! ## Whole texts -/

theorem encode_lt_encode {s t : List Char} (h : s < t) : encode s < encode t := by
  induction s generalizing t with
  | nil =>
    cases t with
    | nil => exact absurd h (List.not_lt_nil [])
    | cons d t =>
      obtain ⟨a, r, hbytes⟩ := List.exists_cons_of_ne_nil (encode_ne_nil (List.cons_ne_nil d t))
      rw [hbytes]
      exact List.nil_lt_cons a r
  | cons c s ih =>
    cases t with
    | nil => exact absurd h (List.not_lt_nil _)
    | cons d t =>
      rw [encode_cons, encode_cons]
      rcases List.cons_lt_cons_iff.mp h with hfirst | ⟨rfl, hrest⟩
      · exact utf8EncodeChar_append_lt hfirst (encode s) (encode t)
      · exact List.append_left_lt (ih hrest)

/-- **Texts are ordered as their bytes are.** -/
theorem encode_lt_encode_iff {s t : String} : encode s.toList < encode t.toList ↔ s < t := by
  have hmono : ∀ {a b : String}, a < b → encode a.toList < encode b.toList := fun h =>
    encode_lt_encode (String.lt_iff.mp h)
  constructor
  · intro h
    by_contra hlt
    by_cases hgt : t < s
    · exact List.lt_asymm h (hmono hgt)
    · rw [eq_of_not_lt hlt hgt] at h
      exact List.lt_irrefl _ h
  · exact hmono

end SessionPlan.Text.Utf8
