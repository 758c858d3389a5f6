/-
Ports in writing.

A port is written in decimal digits. They begin neither with a sign nor with white space, and they
spell the number they were made of, so what was written is read back as the same port, whatever the
name of the source.
-/
import SessionPlan.PortSpec
import SessionPlan.Target

set_option autoImplicit false

namespace SessionPlan

theorem Text.isBlank_of_isDigit {c : Char} (h : c.isDigit = true) : isBlank c = false := by
  have hdigit : 48 ≤ c.toNat ∧ c.toNat ≤ 57 := by
    simpa [Char.isDigit, UInt32.le_iff_toNat_le] using h
  have hbeside : ∀ r ∈ blankRanges, r.2 < 48 ∨ 57 < r.1 := by decide
  rw [← Bool.not_eq_true, isBlank, Ranges.contains_iff]
  rintro ⟨r, hr, hrange⟩
  rcases hbeside r hr with hbefore | hbehind
  · omega
  · omega

namespace Target

variable {port : UInt16}

theorem portDigits_ne_nil (port : UInt16) : portDigits port ≠ [] := Nat.toDigits_ne_nil

theorem isDigit_of_mem_portDigits {c : Char} (h : c ∈ portDigits port) : c.isDigit = true :=
  Nat.isDigit_of_mem_toDigits (by decide) (by decide) h

theorem not_mem_portDigits {c : Char} (h : c.isDigit = false) (port : UInt16) :
    c ∉ portDigits port := by
  intro hmem
  rw [isDigit_of_mem_portDigits hmem] at h
  cases h

end Target

/-- The digits of a port spell that port. -/
theorem portOfDigits?_portDigits (port : UInt16) :
    portOfDigits? (Target.portDigits port) = some port := by
  have hvalue : Nat.ofDigitChars 10 (Target.portDigits port) 0 = port.toNat :=
    Nat.ofDigitChars_toDigits (by decide) (by decide)
  have hdigits : (Target.portDigits port).all Char.isDigit = true :=
    List.all_eq_true.mpr fun c hc => Target.isDigit_of_mem_portDigits hc
  have hbound : port.toNat ≤ 65535 := Nat.le_of_lt_succ port.toNat_lt
  have hplain : portOfDigits? (Target.portDigits port)
      = portOfDigits?.portNumber? (Target.portDigits port) := by
    -- a sign is no digit
    unfold portOfDigits?
    split
    next r hsign =>
      have hmem : '+' ∈ Target.portDigits port := by
        rw [hsign]
        exact List.mem_cons_self
      exact absurd hmem (Target.not_mem_portDigits (by decide) port)
    next => rfl
  rw [hplain, portOfDigits?.portNumber?, hvalue,
    if_pos ⟨Target.portDigits_ne_nil port, hdigits, hbound⟩, UInt16.ofNat_toNat]

/-- **What is written is read back.** -/
theorem readPort_portDigits (port : UInt16) (source : String) :
    readPort (Target.portDigits port) source = .ok port := by
  have hblank : ∀ c ∈ Target.portDigits port, Text.isBlank c = false := fun c hc =>
    Text.isBlank_of_isDigit (Target.isDigit_of_mem_portDigits hc)
  have htrim : Text.trim (Target.portDigits port) = Target.portDigits port := by
    apply Text.trim_eq_self
    · exact fun c hc => hblank c (List.mem_of_mem_head? hc)
    · exact fun c hc => hblank c (List.mem_of_mem_getLast? hc)
  rw [readPort, htrim, portOfDigits?_portDigits]

end SessionPlan
