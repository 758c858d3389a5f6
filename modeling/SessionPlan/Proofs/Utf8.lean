/-
UTF-8: what was encoded is read back, and nothing else is read strictly.

The scanner cuts off the encoding of a character as one piece, whatever follows it. So a text that
was encoded is scanned into its own characters without a fault, and both readers give it back. The
bounds on second bytes matter in one place only: the encoding of a character is never longer than
it has to be, and a character is no surrogate, so its second byte lies within them. The other way
round, the bounds on first and second bytes let nothing through but encodings, so the strict reader
is the inverse of the encoder.

Bytes are compared through their numbers throughout, which leaves linear arithmetic.
-/
import SessionPlan.Text.Utf8
import Mathlib.Data.List.Basic

set_option autoImplicit false

namespace SessionPlan.Text.Utf8

/-! ## Bytes as numbers

The scanner compares bytes as they are. Here each of its tests is told by the numbers of the bytes,
so that `omega` can decide which way it goes. -/

/-- The first byte alone tells how long a character is. -/
theorem front_eq (a : UInt8) (r : List UInt8) :
    front a r
      = if a.toNat < 0x80 then (some (Char.ofNat a.toNat), 0)
        else if a.toNat < 0xC2 then (none, 0)
        else if a.toNat < 0xE0 then frontOfTwo a r
        else if a.toNat < 0xF0 then frontOfThree a r
        else if a.toNat < 0xF5 then frontOfFour a r
        else (none, 0) := by
  simp only [front, UInt8.lt_iff_toNat_lt]
  rfl

/-- Sixty-four bytes continue a character. -/
theorem isContinuation_iff {b : UInt8} :
    isContinuation b = true ↔ 0x80 ≤ b.toNat ∧ b.toNat ≤ 0xBF := by
  simp only [isContinuation, Bool.and_eq_true, decide_eq_true_eq, UInt8.le_iff_toNat_le]
  rfl

/-- The second byte of three: the bounds of its first byte on top of those of a continuation. -/
theorem isSecondOfThree_of_bounds {a b : UInt8} (h : 0x80 ≤ b.toNat ∧ b.toNat ≤ 0xBF)
    (hE0 : a.toNat = 0xE0 → 0xA0 ≤ b.toNat) (hED : a.toNat = 0xED → b.toNat ≤ 0x9F) :
    isSecondOfThree a b = true := by
  rw [isSecondOfThree]
  split
  next ha =>
    have hb : 0xA0 ≤ b.toNat := hE0 (by rw [ha]; rfl)
    simp only [Bool.and_eq_true, decide_eq_true_eq, UInt8.le_iff_toNat_le]
    exact ⟨hb, h.2⟩
  next =>
    split
    next ha =>
      have hb : b.toNat ≤ 0x9F := hED (by rw [ha]; rfl)
      simp only [Bool.and_eq_true, decide_eq_true_eq, UInt8.le_iff_toNat_le]
      exact ⟨h.1, hb⟩
    next => exact isContinuation_iff.mpr h

/-- The second byte of four, likewise. -/
theorem isSecondOfFour_of_bounds {a b : UInt8} (h : 0x80 ≤ b.toNat ∧ b.toNat ≤ 0xBF)
    (hF0 : a.toNat = 0xF0 → 0x90 ≤ b.toNat) (hF4 : a.toNat = 0xF4 → b.toNat ≤ 0x8F) :
    isSecondOfFour a b = true := by
  rw [isSecondOfFour]
  split
  next ha =>
    have hb : 0x90 ≤ b.toNat := hF0 (by rw [ha]; rfl)
    simp only [Bool.and_eq_true, decide_eq_true_eq, UInt8.le_iff_toNat_le]
    exact ⟨hb, h.2⟩
  next =>
    split
    next ha =>
      have hb : b.toNat ≤ 0x8F := hF4 (by rw [ha]; rfl)
      simp only [Bool.and_eq_true, decide_eq_true_eq, UInt8.le_iff_toNat_le]
      exact ⟨h.1, hb⟩
    next => exact isContinuation_iff.mpr h

/-! ## One character

The scanner reads an encoding back as the character that was encoded, one lemma for each length.
Below, `v` is the number of the character; the bytes are those of its encoding. Each byte behind the
first is a digit of `v` in base 64, and what is left of `v` goes into the first. So once the scanner
takes the right branch, the value that it puts together is `v` again, which is linear arithmetic. -/

section Front

variable {v : Nat} (rest : List UInt8)

/-- A digit in base 64 fits into a byte. -/
theorem toNat_tail (n : Nat) : (UInt8.ofNat (n % 0x40 + 0x80)).toNat = n % 0x40 + 0x80 :=
  UInt8.toNat_ofNat_of_lt (by show _ < 256; omega)

theorem isContinuation_tail (n : Nat) : isContinuation (UInt8.ofNat (n % 0x40 + 0x80)) = true := by
  rw [isContinuation_iff, toNat_tail]
  omega

/-- Up to U+007F a character is its own byte. -/
theorem front_one (h : v ≤ 0x7F) : front (UInt8.ofNat v) rest = (some (Char.ofNat v), 0) := by
  have ha : (UInt8.ofNat v).toNat = v := UInt8.toNat_ofNat_of_lt (by show v < 256; omega)
  rw [front_eq, ha, if_pos (by omega)]

/-- Up to U+07FF there is one digit behind the first byte, which is at least `C2`: with `C0` and `C1`
the character would have fit into one byte. -/
theorem front_two (h : 0x7F < v) (h' : v ≤ 0x7FF) :
    front (UInt8.ofNat (v / 64 % 0x20 + 0xC0)) (UInt8.ofNat (v % 0x40 + 0x80) :: rest)
      = (some (Char.ofNat v), 1) := by
  have ha : (UInt8.ofNat (v / 64 % 0x20 + 0xC0)).toNat = v / 64 % 0x20 + 0xC0 :=
    UInt8.toNat_ofNat_of_lt (by show _ < 256; omega)
  have hvalue : (v / 64 % 0x20 + 0xC0) % 0x20 * 0x40 + (v % 0x40 + 0x80) % 0x40 = v := by omega
  rw [front_eq, ha, if_neg (by omega), if_neg (by omega), if_pos (by omega), frontOfTwo,
    if_pos (isContinuation_tail v), payload, ha, toNat_tail, hvalue]

/-- Up to U+FFFF there are two. That the character did not fit into two bytes, and that it is no
surrogate, is what the bounds on the second byte ask for. -/
theorem front_three (h : 0x7FF < v) (h' : v ≤ 0xFFFF) (hvalid : v < 0xD800 ∨ 0xDFFF < v) :
    front (UInt8.ofNat (v / 4096 % 0x10 + 0xE0))
        (UInt8.ofNat (v / 64 % 0x40 + 0x80) :: UInt8.ofNat (v % 0x40 + 0x80) :: rest)
      = (some (Char.ofNat v), 2) := by
  have ha : (UInt8.ofNat (v / 4096 % 0x10 + 0xE0)).toNat = v / 4096 % 0x10 + 0xE0 :=
    UInt8.toNat_ofNat_of_lt (by show _ < 256; omega)
  have hb : isSecondOfThree (UInt8.ofNat (v / 4096 % 0x10 + 0xE0))
      (UInt8.ofNat (v / 64 % 0x40 + 0x80)) = true := by
    apply isSecondOfThree_of_bounds
    · rw [toNat_tail]; omega
    · -- after `E0`, where the first digit would be less than 32
      rw [ha, toNat_tail]; omega
    · -- after `ED`, where the surrogates would follow
      rw [ha, toNat_tail]; omega
  have hvalue : ((v / 4096 % 0x10 + 0xE0) % 0x10 * 0x40 + (v / 64 % 0x40 + 0x80) % 0x40) * 0x40
      + (v % 0x40 + 0x80) % 0x40 = v := by omega
  -- the first byte lies between `E0` and `EF`
  rw [front_eq, ha, if_neg (by omega), if_neg (by omega), if_neg (by omega), if_pos (by omega),
    frontOfThree, hb, isContinuation_tail]
  simp only [Bool.not_true, Bool.false_eq_true, if_false, payload, ha, toNat_tail, hvalue]

/-- Beyond U+FFFF there are three. The bounds on the second byte ask that the character did not fit
into three bytes and that it is at most U+10FFFF. -/
theorem front_four (h : 0xFFFF < v) (h' : v < 0x110000) :
    front (UInt8.ofNat (v / 262144 % 0x08 + 0xF0))
        (UInt8.ofNat (v / 4096 % 0x40 + 0x80) :: UInt8.ofNat (v / 64 % 0x40 + 0x80)
          :: UInt8.ofNat (v % 0x40 + 0x80) :: rest)
      = (some (Char.ofNat v), 3) := by
  have ha : (UInt8.ofNat (v / 262144 % 0x08 + 0xF0)).toNat = v / 262144 % 0x08 + 0xF0 :=
    UInt8.toNat_ofNat_of_lt (by show _ < 256; omega)
  have hb : isSecondOfFour (UInt8.ofNat (v / 262144 % 0x08 + 0xF0))
      (UInt8.ofNat (v / 4096 % 0x40 + 0x80)) = true := by
    apply isSecondOfFour_of_bounds
    · rw [toNat_tail]; omega
    · -- after `F0`, where the first digit would be less than 16
      rw [ha, toNat_tail]; omega
    · -- after `F4`, where U+110000 would follow
      rw [ha, toNat_tail]; omega
  have hvalue : (((v / 262144 % 0x08 + 0xF0) % 0x08 * 0x40 + (v / 4096 % 0x40 + 0x80) % 0x40) * 0x40
      + (v / 64 % 0x40 + 0x80) % 0x40) * 0x40 + (v % 0x40 + 0x80) % 0x40 = v := by omega
  rw [front_eq, ha, if_neg (by omega), if_neg (by omega), if_neg (by omega), if_neg (by omega),
    if_pos (by omega), frontOfFour, hb, isContinuation_tail, isContinuation_tail]
  simp only [Bool.not_true, Bool.false_eq_true, if_false, payload, ha, toNat_tail, hvalue]

end Front

/-- **The front of an encoding.** The scanner cuts off the encoding of a character as a whole,
whatever follows. -/
theorem front_utf8EncodeChar (c : Char) (rest : List UInt8) :
    ∃ a r, String.utf8EncodeChar c = a :: r ∧ front a (r ++ rest) = (some c, r.length) := by
  have hchar : Char.ofNat c.val.toNat = c := Char.ofNat_toNat c
  have hvalid : c.val.toNat < 0xD800 ∨ 0xDFFF < c.val.toNat ∧ c.val.toNat < 0x110000 := c.valid
  -- the bounds of the four lengths are those of the encoder
  generalize hv : c.val.toNat = v at hchar hvalid
  rw [String.utf8EncodeChar, hv, ← hchar]
  split
  next h1 => exact ⟨_, _, rfl, front_one rest h1⟩
  next h1 =>
    split
    next h2 => exact ⟨_, _, rfl, front_two rest (by omega) h2⟩
    next h2 =>
      split
      next h3 => exact ⟨_, _, rfl, front_three rest (by omega) h3 (by omega)⟩
      next h3 => exact ⟨_, _, rfl, front_four rest (by omega) (by omega)⟩

/-! ## Whole texts

The scanner counts the bytes that it still has to pass over, so the induction on the text goes from
one character to the next, not from one byte to the next. -/

/-- Bytes that belong to the character in front are passed over. -/
theorem scanAfter_length_append (r rest : List UInt8) :
    scanAfter r.length (r ++ rest) = scanAfter 0 rest := by
  induction r with
  | nil => rfl
  | cons b r ih => exact ih

/-- Texts are encoded character by character. -/
theorem encode_cons (c : Char) (s : List Char) :
    encode (c :: s) = String.utf8EncodeChar c ++ encode s := rfl

/-- So the bytes of two texts stand one behind the other. -/
theorem encode_append (s t : List Char) : encode (s ++ t) = encode s ++ encode t :=
  List.flatMap_append

/-- **Scanning an encoded text** finds its characters and no fault. -/
theorem scan_encode (s : List Char) : scan (encode s) = s.map some := by
  induction s with
  | nil => rfl
  | cons c s ih =>
    -- the front is this character, and its other bytes are passed over
    obtain ⟨a, r, hbytes, hfront⟩ := front_utf8EncodeChar c (encode s)
    rw [encode_cons, hbytes, List.cons_append, scan, scanAfter, hfront, scanAfter_length_append,
      List.map_cons, ← ih, scan]

/-- The strict reader gives back what was encoded. -/
theorem decode?_encode (s : List Char) : decode? (encode s) = some s := by
  rw [decode?, scan_encode]
  induction s with
  | nil => rfl
  | cons c s ih =>
    rw [List.map_cons, List.mapM_cons, ih]
    rfl

/-- So does the lenient reader. -/
theorem decodeLenient_encode (s : List Char) : decodeLenient (encode s) = s := by
  rw [decodeLenient, scan_encode, List.map_map]
  exact List.map_id s

/-- No character is lost in the encoding. -/
theorem encode_ne_nil {s : List Char} (h : s ≠ []) : encode s ≠ [] := by
  cases s with
  | nil => exact absurd rfl h
  | cons c s =>
    rw [encode_cons]
    exact List.append_ne_nil_of_left_ne_nil String.utf8EncodeChar_ne_nil _

/-- Bytes that are read strictly are not lost altogether. -/
theorem ne_nil_of_decode? {bytes : List UInt8} {s : List Char} (h : decode? bytes = some s)
    (hne : bytes ≠ []) : s ≠ [] := by
  cases bytes with
  | nil => exact absurd rfl hne
  | cons a r =>
    rw [decode?, scan, scanAfter, List.mapM_cons] at h
    obtain ⟨c, -, h⟩ := Option.bind_eq_some_iff.mp h
    obtain ⟨t, -, h⟩ := Option.bind_eq_some_iff.mp h
    cases h
    exact List.cons_ne_nil c t

/-! ## What is read is an encoding

Where the scanner finds a character, the bytes are its encoding. Here the bytes are given and the
character is put together from them. The bounds on first and second bytes keep its number within
those of characters with as many bytes, so that the encoder takes the branch with this length, and
its digits are those that came out of the bytes. -/

/-- A byte is the one that a number names, if it has that number. -/
theorem ofNat_eq_of_toNat {b : UInt8} {n : Nat} (h : n = b.toNat) : UInt8.ofNat n = b := by
  rw [h, UInt8.ofNat_toNat]

/-- A number that is no surrogate's and not too great is that of a character. -/
theorem toNat_val_ofNat {v : Nat} (h : v < 0xD800 ∨ 0xDFFF < v ∧ v < 0x110000) :
    (Char.ofNat v).val.toNat = v := by
  have hvalid : v.isValidChar := h
  rw [Char.ofNat, dif_pos hvalid]
  rfl

/-- What is known of a second byte of three that was let through. -/
theorem bounds_of_isSecondOfThree {a b : UInt8} (h : isSecondOfThree a b = true) :
    (0x80 ≤ b.toNat ∧ b.toNat ≤ 0xBF) ∧ (a.toNat = 0xE0 → 0xA0 ≤ b.toNat)
      ∧ (a.toNat = 0xED → b.toNat ≤ 0x9F) := by
  unfold isSecondOfThree at h
  by_cases hE0 : a = 0xE0
  · rw [if_pos hE0] at h
    simp only [Bool.and_eq_true, decide_eq_true_eq, UInt8.le_iff_toNat_le, UInt8.reduceToNat] at h
    have ha : a.toNat = 0xE0 := by rw [hE0]; rfl
    omega
  · have ha : a.toNat ≠ 0xE0 := fun heq => hE0 (UInt8.toNat_inj.mp heq)
    rw [if_neg hE0] at h
    by_cases hED : a = 0xED
    · rw [if_pos hED] at h
      simp only [Bool.and_eq_true, decide_eq_true_eq, UInt8.le_iff_toNat_le, UInt8.reduceToNat] at h
      omega
    · have ha' : a.toNat ≠ 0xED := fun heq => hED (UInt8.toNat_inj.mp heq)
      rw [if_neg hED, isContinuation_iff] at h
      omega

/-- What is known of a second byte of four. -/
theorem bounds_of_isSecondOfFour {a b : UInt8} (h : isSecondOfFour a b = true) :
    (0x80 ≤ b.toNat ∧ b.toNat ≤ 0xBF) ∧ (a.toNat = 0xF0 → 0x90 ≤ b.toNat)
      ∧ (a.toNat = 0xF4 → b.toNat ≤ 0x8F) := by
  unfold isSecondOfFour at h
  by_cases hF0 : a = 0xF0
  · rw [if_pos hF0] at h
    simp only [Bool.and_eq_true, decide_eq_true_eq, UInt8.le_iff_toNat_le, UInt8.reduceToNat] at h
    have ha : a.toNat = 0xF0 := by rw [hF0]; rfl
    omega
  · have ha : a.toNat ≠ 0xF0 := fun heq => hF0 (UInt8.toNat_inj.mp heq)
    rw [if_neg hF0] at h
    by_cases hF4 : a = 0xF4
    · rw [if_pos hF4] at h
      simp only [Bool.and_eq_true, decide_eq_true_eq, UInt8.le_iff_toNat_le, UInt8.reduceToNat] at h
      omega
    · have ha' : a.toNat ≠ 0xF4 := fun heq => hF4 (UInt8.toNat_inj.mp heq)
      rw [if_neg hF4, isContinuation_iff] at h
      omega

section Front

variable {a : UInt8} {r : List UInt8} {c : Char} {n : Nat}

/-- Two bytes that are read as a character are its encoding. -/
theorem encode_of_front_two (ha : 0xC2 ≤ a.toNat) (ha' : a.toNat < 0xE0)
    (h : frontOfTwo a r = (some c, n)) : String.utf8EncodeChar c = a :: r.take n := by
  unfold frontOfTwo at h
  split at h
  · cases h
  next b rest =>
    split at h
    next hb =>
      cases h
      have hbounds := isContinuation_iff.mp hb
      have hv := toNat_val_ofNat (v := a.toNat % 0x20 * 0x40 + payload b) (by unfold payload; omega)
      unfold payload at hv
      simp only [String.utf8EncodeChar, payload, hv]
      rw [if_neg (by omega), if_pos (by omega), List.take_succ_cons, List.take_zero,
        ofNat_eq_of_toNat (b := a) (by omega), ofNat_eq_of_toNat (b := b) (by omega)]
    next => cases h

/-- Three bytes likewise. -/
theorem encode_of_front_three (ha : 0xE0 ≤ a.toNat) (ha' : a.toNat < 0xF0)
    (h : frontOfThree a r = (some c, n)) : String.utf8EncodeChar c = a :: r.take n := by
  unfold frontOfThree at h
  split at h
  · cases h
  · cases h
  next b d rest =>
    split at h
    · cases h
    next hb =>
      split at h
      · cases h
      next hd =>
        cases h
        -- the number of the character is one with three bytes, and no surrogate's
        obtain ⟨hbounds, hE0, hED⟩ := bounds_of_isSecondOfThree (by simpa using hb)
        have hbounds' := isContinuation_iff.mp (by simpa using hd)
        have hv := toNat_val_ofNat
          (v := (a.toNat % 0x10 * 0x40 + payload b) * 0x40 + payload d) (by unfold payload; omega)
        unfold payload at hv
        simp only [String.utf8EncodeChar, payload, hv]
        rw [if_neg (by omega), if_neg (by omega), if_pos (by omega), List.take_succ_cons,
          List.take_succ_cons, List.take_zero, ofNat_eq_of_toNat (b := a) (by omega),
          ofNat_eq_of_toNat (b := b) (by omega), ofNat_eq_of_toNat (b := d) (by omega)]

/-- Four bytes likewise. -/
theorem encode_of_front_four (ha : 0xF0 ≤ a.toNat) (ha' : a.toNat < 0xF5)
    (h : frontOfFour a r = (some c, n)) : String.utf8EncodeChar c = a :: r.take n := by
  unfold frontOfFour at h
  split at h
  · cases h
  · cases h
  · cases h
  next b d e rest =>
    split at h
    · cases h
    next hb =>
      split at h
      · cases h
      next hd =>
        split at h
        · cases h
        next he =>
          cases h
          -- the number of the character is one with four bytes, at most U+10FFFF
          obtain ⟨hbounds, hF0, hF4⟩ := bounds_of_isSecondOfFour (by simpa using hb)
          have hd' := isContinuation_iff.mp (by simpa using hd)
          have he' := isContinuation_iff.mp (by simpa using he)
          have hv := toNat_val_ofNat
            (v := ((a.toNat % 0x08 * 0x40 + payload b) * 0x40 + payload d) * 0x40 + payload e)
            (by unfold payload; omega)
          unfold payload at hv
          simp only [String.utf8EncodeChar, payload, hv]
          rw [if_neg (by omega), if_neg (by omega), if_neg (by omega), List.take_succ_cons,
            List.take_succ_cons, List.take_succ_cons, List.take_zero,
            ofNat_eq_of_toNat (b := a) (by omega), ofNat_eq_of_toNat (b := b) (by omega),
            ofNat_eq_of_toNat (b := d) (by omega), ofNat_eq_of_toNat (b := e) (by omega)]

/-- **Only encodings.** A character in front is there by its encoding. -/
theorem encode_of_front (h : front a r = (some c, n)) :
    String.utf8EncodeChar c = a :: r.take n := by
  rw [front_eq] at h
  split at h
  next h1 =>
    cases h
    have hv := toNat_val_ofNat (v := a.toNat) (by omega)
    simp only [String.utf8EncodeChar, hv]
    rw [if_pos (by omega), List.take_zero, UInt8.ofNat_toNat]
  next h1 =>
    split at h
    · cases h
    next h2 =>
      split at h
      next h3 => exact encode_of_front_two (by omega) h3 h
      next h3 =>
        split at h
        next h4 => exact encode_of_front_three (by omega) h4 h
        next h4 =>
          split at h
          next h5 => exact encode_of_front_four (by omega) h5 h
          next => cases h

end Front

/-- What is scanned without a fault, the skipped bytes aside, is an encoding. -/
theorem encode_of_mapM_scanAfter {bytes : List UInt8} {skipped : Nat} {s : List Char}
    (h : (scanAfter skipped bytes).mapM id = some s) : encode s = bytes.drop skipped := by
  induction bytes generalizing skipped s with
  | nil =>
    simp only [scanAfter, List.mapM_nil] at h
    cases h
    rw [List.drop_nil]
    rfl
  | cons a r ih =>
    cases skipped with
    | succ n => exact ih h
    | zero =>
      rw [scanAfter, List.mapM_cons] at h
      obtain ⟨c, hc, h⟩ := Option.bind_eq_some_iff.mp h
      obtain ⟨t, ht, h⟩ := Option.bind_eq_some_iff.mp h
      cases h
      have hfront : front a r = (some c, (front a r).2) := Prod.ext hc rfl
      rw [encode_cons, encode_of_front hfront, ih ht, List.cons_append, List.take_append_drop,
        List.drop_zero]

/-- **Strict reading is the inverse of encoding.** -/
theorem decode?_eq_some_iff {bytes : List UInt8} {s : List Char} :
    decode? bytes = some s ↔ encode s = bytes := by
  constructor
  · intro h
    exact encode_of_mapM_scanAfter h
  · intro h
    rw [← h, decode?_encode]

/-- These two bytes hold the digits of NUL, but they are not its encoding. -/
example : decode? [0xC0, 0x80] = none := by decide +kernel

end SessionPlan.Text.Utf8
