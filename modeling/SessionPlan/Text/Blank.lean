/-
White space, and trimming it off both ends of a text.

White space is the Unicode property `White_Space`: twenty-five characters, among them the ASCII
controls from tab to carriage return, the next-line control U+0085 and the no-break space U+00A0.
The zero-width space U+200B and the byte-order mark U+FEFF are not white space.
-/
import SessionPlan.Text.Ranges

set_option autoImplicit false

namespace SessionPlan.Text

/-- The code points with the property `White_Space`. -/
def blankRanges : Ranges := [
  (0x9, 0xD), (0x20, 0x20), (0x85, 0x85), (0xA0, 0xA0), (0x1680, 0x1680), (0x2000, 0x200A),
  (0x2028, 0x2029), (0x202F, 0x202F), (0x205F, 0x205F), (0x3000, 0x3000)]

/-- Whether a character is white space. -/
def isBlank (c : Char) : Bool := blankRanges.contains c.toNat

/-- A text without the white space at its two ends. -/
def trim (s : List Char) : List Char :=
  ((s.dropWhile isBlank).reverse.dropWhile isBlank).reverse

/-- Trimming leaves a text alone that neither begins nor ends with white space. -/
theorem trim_eq_self {s : List Char} (first : ∀ c ∈ s.head?, isBlank c = false)
    (last : ∀ c ∈ s.getLast?, isBlank c = false) : trim s = s := by
  have front : s.dropWhile isBlank = s := by
    cases s with
    | nil => rfl
    | cons c r => exact List.dropWhile_cons_of_neg (by simp [first c (by simp)])
  have back : s.reverse.dropWhile isBlank = s.reverse := by
    cases h : s.reverse with
    | nil => rfl
    | cons c r =>
      have hc : s.getLast? = some c := by rw [← List.head?_reverse, h]; rfl
      exact List.dropWhile_cons_of_neg (by simp [last c hc])
  rw [trim, front, back, List.reverse_reverse]

end SessionPlan.Text
