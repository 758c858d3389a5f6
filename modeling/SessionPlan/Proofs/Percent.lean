/-
Percent-encoding: what was encoded is read back, and no delimiter survives.

An encoded text consists of unreserved characters, percent signs and upper-case hexadecimal digits.
They are all ASCII, so the bytes of the encoded text can be followed one by one: a byte that stands
for itself is no percent sign, and the two digits behind a percent sign name the byte they were made
from. None of these bytes is a plus sign either, and so the form decoder reads the same bytes.
-/
import SessionPlan.Text.Percent
import SessionPlan.Proofs.Utf8

set_option autoImplicit false

namespace SessionPlan.Text.Percent

/-! ## Single bytes -/

theorem toNat_ofNat_of_ascii {n : Nat} (h : n < 0x80) : (Char.ofNat n).toNat = n := by
  rw [Char.ofNat, dif_pos (Or.inl (by omega))]
  rfl

/-- The bytes of an ASCII character. -/
theorem encode_singleton_of_ascii {n : Nat} (h : n < 0x80) :
    Utf8.encode [Char.ofNat n] = [UInt8.ofNat n] := by
  have hv : (Char.ofNat n).val.toNat = n := toNat_ofNat_of_ascii h
  rw [Utf8.encode_cons, String.utf8EncodeChar, hv, if_pos (by omega)]
  rfl

theorem toNat_lt_of_isUnreserved {b : UInt8} (h : isUnreserved b = true) : b.toNat < 0x80 := by
  have hle : ∀ {m n : UInt8}, m ≤ b ∧ b ≤ n → b.toNat ≤ n.toNat :=
    fun h => UInt8.le_iff_toNat_le.mp h.2
  simp only [isUnreserved, Bool.or_eq_true, Bool.and_eq_true, decide_eq_true_eq] at h
  rcases h with (((((h | h) | h) | rfl) | rfl) | rfl) | rfl
  · exact Nat.lt_of_le_of_lt (hle h) (by decide)
  · exact Nat.lt_of_le_of_lt (hle h) (by decide)
  · exact Nat.lt_of_le_of_lt (hle h) (by decide)
  all_goals decide

/-- A hexadecimal digit is one byte, and its value is the one it was made from. -/
theorem hexDigit_byte : ∀ n < 16, ∃ x, Utf8.encode [hexDigit n] = [x] ∧
    hexValue? x = some (UInt8.ofNat n) ∧ x ≠ 0x2B := by
  intro n hn
  refine ⟨UInt8.ofNat (hexDigit n).toNat, ?_, ?_⟩
  all_goals revert n; decide

/-- The bytes of an encoded byte: the byte itself where it is unreserved, and otherwise a percent
sign with two digits that name it. -/
theorem encodeByte_bytes (b : UInt8) :
    (isUnreserved b = true ∧ Utf8.encode (encodeByte b) = [b]) ∨
    ∃ x y, Utf8.encode (encodeByte b) = [0x25, x, y] ∧ escaped? x y = some b
      ∧ x ≠ 0x2B ∧ y ≠ 0x2B := by
  rw [encodeByte]
  split
  next h =>
    refine Or.inl ⟨h, ?_⟩
    rw [encode_singleton_of_ascii (toNat_lt_of_isUnreserved h), UInt8.ofNat_toNat]
  next h =>
    have hb : b.toNat < 256 := UInt8.toNat_lt b
    obtain ⟨x, hx, hhigh, hx'⟩ := hexDigit_byte (b.toNat / 16) (by omega)
    obtain ⟨y, hy, hlow, hy'⟩ := hexDigit_byte (b.toNat % 16) (by omega)
    refine Or.inr ⟨x, y, ?_, ?_, hx', hy'⟩
    · rw [← List.singleton_append, ← List.singleton_append (l := [hexDigit (b.toNat % 16)]),
        Utf8.encode_append, Utf8.encode_append, hx, hy]
      rfl
    · -- both digits are below sixteen, so the byte arithmetic of the reader does not wrap
      have h16 : (UInt8.ofNat (b.toNat / 16)).toNat = b.toNat / 16 :=
        UInt8.toNat_ofNat_of_lt (by show _ < 256; omega)
      have h1 : (UInt8.ofNat (b.toNat % 16)).toNat = b.toNat % 16 :=
        UInt8.toNat_ofNat_of_lt (by show _ < 256; omega)
      rw [escaped?, hhigh, hlow]
      show some _ = some b
      rw [Option.some.injEq, ← UInt8.toNat_inj, UInt8.toNat_add, UInt8.toNat_mul, h16, h1]
      show (b.toNat / 16 * 16 % 256 + b.toNat % 16) % 256 = b.toNat
      omega

/-! ## Reading encoded bytes -/

/-- A byte other than the percent sign stands for itself. -/
theorem decodeBytes_cons_of_ne {a : UInt8} (h : a ≠ 0x25) (rest : List UInt8) :
    decodeBytes (a :: rest) = a :: decodeBytes rest := by
  match rest with
  | [] => rfl
  | [_] => rfl
  | b :: c :: r => rw [decodeBytes, if_neg h]

/-- An encoded byte is read back, whatever follows. -/
theorem decodeBytes_encodeByte (b : UInt8) (rest : List UInt8) :
    decodeBytes (Utf8.encode (encodeByte b) ++ rest) = b :: decodeBytes rest := by
  rcases encodeByte_bytes b with ⟨h, hbytes⟩ | ⟨x, y, hbytes, hescaped, -⟩
  · -- the percent sign itself is never left as it is
    have hb : b ≠ 0x25 := by
      rintro rfl
      exact absurd h (by decide)
    rw [hbytes, List.singleton_append, decodeBytes_cons_of_ne hb]
  · rw [hbytes, List.cons_append, List.cons_append, List.singleton_append, decodeBytes,
      if_pos rfl, hescaped]

theorem decodeBytes_flatMap_encodeByte (bytes : List UInt8) :
    decodeBytes (Utf8.encode (bytes.flatMap encodeByte)) = bytes := by
  induction bytes with
  | nil => rfl
  | cons b bytes ih => rw [List.flatMap_cons, Utf8.encode_append, decodeBytes_encodeByte, ih]

/-- Among the bytes of encoded bytes there is no plus sign. -/
theorem plus_not_mem_flatMap_encodeByte (bytes : List UInt8) :
    0x2B ∉ Utf8.encode (bytes.flatMap encodeByte) := by
  induction bytes with
  | nil => exact List.not_mem_nil
  | cons b bytes ih =>
    rw [List.flatMap_cons, Utf8.encode_append, List.mem_append, not_or]
    refine ⟨?_, ih⟩
    rcases encodeByte_bytes b with ⟨h, hbytes⟩ | ⟨x, y, hbytes, -, hx, hy⟩
    · rw [hbytes, List.mem_singleton]
      rintro rfl
      exact absurd h (by decide)
    · rw [hbytes]
      simp [hx.symm, hy.symm]

/-! ## Whole texts -/

/-- **Percent-decoding** gives back what was encoded. -/
theorem decode?_encode (s : List Char) : decode? (encode s) = some s := by
  rw [decode?, encode, decodeBytes_flatMap_encodeByte, Utf8.decode?_encode]

/-- **Form-decoding** does so too: it finds no plus sign to turn into a space. -/
theorem decodeForm_encode (s : List Char) : decodeForm (encode s) = s := by
  have hplus : (Utf8.encode (encode s)).map (fun b => if b = 0x2B then 0x20 else b)
      = Utf8.encode (encode s) := by
    have hmem : 0x2B ∉ Utf8.encode (encode s) := plus_not_mem_flatMap_encodeByte (Utf8.encode s)
    refine (List.map_congr_left fun b hb => ?_).trans (List.map_id _)
    have hne : b ≠ 0x2B := fun h => hmem (h ▸ hb)
    exact if_neg hne
  rw [decodeForm, hplus, encode, decodeBytes_flatMap_encodeByte, Utf8.decodeLenient_encode]

theorem encode_eq_nil_iff {s : List Char} : encode s = [] ↔ s = [] := by
  refine ⟨fun h => ?_, fun h => by rw [h]; rfl⟩
  have hs : some [] = some s := by rw [← decode?_encode s, h]; rfl
  exact (Option.some.inj hs).symm

/-- A part of a text that is decoded at all does not get lost. -/
theorem ne_nil_of_decode? {part s : List Char} (h : decode? part = some s) (hne : part ≠ []) :
    s ≠ [] := by
  refine Utf8.ne_nil_of_decode? h ?_
  -- every rule of the decoder leaves a byte where it finds one
  have hbytes : Utf8.encode part ≠ [] := Utf8.encode_ne_nil hne
  intro hnil
  rw [decodeBytes.eq_def] at hnil
  split at hnil
  · split at hnil
    · split at hnil <;> cases hnil
    · cases hnil
  · exact hbytes hnil

/-! ## Delimiters -/

/-- The characters that encoded texts are made of. -/
def isPlain (c : Char) : Bool :=
  c = '%' || (c.toNat < 0x80 && isUnreserved (UInt8.ofNat c.toNat))

theorem isPlain_hexDigit : ∀ n < 16, isPlain (hexDigit n) = true := by decide

theorem isPlain_of_mem_encodeByte {b : UInt8} {c : Char} (hc : c ∈ encodeByte b) :
    isPlain c = true := by
  rw [encodeByte] at hc
  split at hc
  next hb =>
    have hlt : b.toNat < 0x80 := toNat_lt_of_isUnreserved hb
    rw [List.mem_singleton.mp hc, isPlain, toNat_ofNat_of_ascii hlt, UInt8.ofNat_toNat, hb,
      decide_eq_true hlt]
    exact Bool.or_true _
  next =>
    have hb : b.toNat < 256 := UInt8.toNat_lt b
    rcases List.mem_cons.mp hc with rfl | hc
    · rfl
    rcases List.mem_cons.mp hc with rfl | hc
    · exact isPlain_hexDigit _ (by omega)
    rw [List.mem_singleton.mp hc]
    exact isPlain_hexDigit _ (by omega)

theorem isPlain_of_mem_encode {s : List Char} {c : Char} (h : c ∈ encode s) :
    isPlain c = true := by
  obtain ⟨b, -, hc⟩ := List.mem_flatMap.mp h
  exact isPlain_of_mem_encodeByte hc

/-- **No delimiters.** A character that is neither a percent sign nor unreserved occurs in no
encoded text. -/
theorem not_mem_encode {c : Char} (h : isPlain c = false) (s : List Char) : c ∉ encode s := by
  intro hc
  rw [isPlain_of_mem_encode hc] at h
  cases h

/-! ## The form encoding

Its three bytes of its own are read as what they stand for; all others are encoded as before. -/

/-- What the form decoder makes of a byte before it looks for percent signs. -/
def plusToSpace (b : UInt8) : UInt8 := if b = 0x2B then 0x20 else b

theorem decodeBytes_encodeFormByte (b : UInt8) (rest : List UInt8) :
    decodeBytes ((Utf8.encode (encodeFormByte b)).map plusToSpace ++ rest)
      = b :: decodeBytes rest := by
  unfold encodeFormByte
  by_cases hspace : b = 0x20
  · rw [if_pos hspace, hspace]
    exact decodeBytes_cons_of_ne (by decide) rest
  by_cases hstar : b = 0x2A
  · rw [if_neg hspace, if_pos hstar, hstar]
    exact decodeBytes_cons_of_ne (by decide) rest
  by_cases htilde : b = 0x7E
  · rw [if_neg hspace, if_neg hstar, if_pos htilde, htilde]
    rfl
  rw [if_neg hspace, if_neg hstar, if_neg htilde]
  have hplus : 0x2B ∉ Utf8.encode (encodeByte b) := by
    have h := plus_not_mem_flatMap_encodeByte [b]
    rwa [List.flatMap_singleton] at h
  have hmap : (Utf8.encode (encodeByte b)).map plusToSpace = Utf8.encode (encodeByte b) := by
    refine (List.map_congr_left fun x hx => ?_).trans (List.map_id _)
    have hne : x ≠ 0x2B := fun h => hplus (h ▸ hx)
    exact if_neg hne
  rw [hmap, decodeBytes_encodeByte]

/-- **Form-decoding** gives back what was form-encoded. -/
theorem decodeForm_encodeForm (s : List Char) : decodeForm (encodeForm s) = s := by
  have hbytes : ∀ bytes : List UInt8,
      decodeBytes ((Utf8.encode (bytes.flatMap encodeFormByte)).map plusToSpace) = bytes := by
    intro bytes
    induction bytes with
    | nil => rfl
    | cons b bytes ih =>
      rw [List.flatMap_cons, Utf8.encode_append, List.map_append, decodeBytes_encodeFormByte, ih]
  unfold decodeForm encodeForm
  show Utf8.decodeLenient (decodeBytes ((Utf8.encode _).map plusToSpace)) = s
  rw [hbytes, Utf8.decodeLenient_encode]

theorem not_mem_encodeForm {c : Char} (h : isPlain c = false ∧ c ≠ '+' ∧ c ≠ '*')
    (s : List Char) : c ∉ encodeForm s := by
  intro hc
  obtain ⟨b, -, hc⟩ := List.mem_flatMap.mp hc
  unfold encodeFormByte at hc
  split at hc
  · exact h.2.1 (List.mem_singleton.mp hc)
  split at hc
  · exact h.2.2 (List.mem_singleton.mp hc)
  have hplain : isPlain c = true := by
    split at hc
    next htilde =>
      have hall : ['%', '7', 'E'].all isPlain = true := by decide
      exact List.all_eq_true.mp hall c hc
    next => exact isPlain_of_mem_encodeByte hc
  rw [hplain] at h
  cases h.1

end SessionPlan.Text.Percent
