/-
Outcomes: how a computation that may fail is taken apart.

Every reader of this library either returns a value or names the first fault it meets. The facts
below say what is known of the steps once the outcome of the whole is known, and what `mapM` keeps
of a list: a successful pass over a list yields exactly one result for each entry, in order. Two
computations that run side by side are compared step by step: they stay **alike** as long as they
meet the same fault or hold related values.
-/
import Mathlib.Data.List.Forall2

set_option autoImplicit false

namespace SessionPlan

variable {ε α β : Type}

/-! ## One step after another -/

@[simp] theorem ok_bind (a : α) (f : α → Except ε β) : (Except.ok a >>= f) = f a := rfl

@[simp] theorem error_bind (e : ε) (f : α → Except ε β) :
    ((Except.error e : Except ε α) >>= f) = Except.error e := rfl

@[simp] theorem pure_eq_ok (a : α) : (pure a : Except ε α) = Except.ok a := rfl

@[simp] theorem map_ok (a : α) (f : α → β) :
    (Except.ok a : Except ε α).map f = Except.ok (f a) := rfl

@[simp] theorem map_error (e : ε) (f : α → β) :
    (Except.error e : Except ε α).map f = Except.error e := rfl

theorem map_eq_bind (x : Except ε α) (f : α → β) : x.map f = x >>= fun a => .ok (f a) := by
  cases x with
  | error e => rfl
  | ok a => rfl

theorem bind_of_map {γ : Type} (x : Except ε α) (f : α → β) (g : β → Except ε γ) :
    (x.map f >>= g) = x >>= fun a => g (f a) := by
  cases x with
  | error e => rfl
  | ok a => rfl

theorem map_of_bind {γ : Type} (x : Except ε α) (f : α → Except ε β) (g : β → γ) :
    (x >>= f).map g = x >>= fun a => (f a).map g := by
  cases x with
  | error e => rfl
  | ok a => rfl

/-- Two steps succeed when the first does and the second does with its value. -/
theorem bind_eq_ok_iff {x : Except ε α} {f : α → Except ε β} {b : β} :
    (x >>= f) = .ok b ↔ ∃ a, x = .ok a ∧ f a = .ok b := by
  cases x with
  | error e => simp
  | ok a => simp

/-- Two steps fail with the fault of the first, or with that of the second after a success. -/
theorem bind_eq_error_iff {x : Except ε α} {f : α → Except ε β} {e : ε} :
    (x >>= f) = .error e ↔ x = .error e ∨ ∃ a, x = .ok a ∧ f a = .error e := by
  cases x with
  | error e' => simp
  | ok a => simp

theorem map_eq_ok_iff {x : Except ε α} {f : α → β} {b : β} :
    x.map f = .ok b ↔ ∃ a, x = .ok a ∧ f a = b := by
  cases x with
  | error e => simp
  | ok a => simp

theorem map_eq_error_iff {x : Except ε α} {f : α → β} {e : ε} :
    x.map f = .error e ↔ x = .error e := by
  cases x with
  | error e' => simp
  | ok a => simp

theorem exists_map_eq_ok_iff {x : Except ε α} {f : α → β} :
    (∃ b, x.map f = .ok b) ↔ ∃ a, x = .ok a := by
  cases x with
  | error e => simp
  | ok a => simp

/-- A computation with one possible fault meets it whenever it has no value. -/
theorem eq_error_iff_of_forall {x : Except ε α} {fault e : ε}
    (h : ∀ e, x = .error e → e = fault) :
    x = .error e ↔ (¬ ∃ a, x = .ok a) ∧ e = fault := by
  cases x with
  | error e' =>
    obtain rfl := h e' rfl
    simp [eq_comm]
  | ok a => simp

theorem mapError_eq_ok_iff {ε' : Type} {x : Except ε α} {f : ε → ε'} {a : α} :
    x.mapError f = .ok a ↔ x = .ok a := by
  cases x with
  | error e => simp [Except.mapError]
  | ok a' => simp [Except.mapError]

/-! ## A pass over a list -/

/-- **A pass succeeds entry by entry.** -/
theorem mapM_eq_ok_iff {f : α → Except ε β} {l : List α} {r : List β} :
    l.mapM f = .ok r ↔ List.Forall₂ (fun a b => f a = .ok b) l r := by
  induction l generalizing r with
  | nil => simp [eq_comm]
  | cons a l ih =>
    rw [List.mapM_cons, bind_eq_ok_iff, List.forall₂_cons_left_iff]
    constructor
    · rintro ⟨b, hb, hr⟩
      obtain ⟨r', hr', hcons⟩ := bind_eq_ok_iff.mp hr
      exact ⟨b, r', hb, ih.mp hr', (Except.ok.inj hcons).symm⟩
    · rintro ⟨b, r', hb, hr', rfl⟩
      exact ⟨b, hb, bind_eq_ok_iff.mpr ⟨r', ih.mpr hr', rfl⟩⟩

/-- **The first fault decides.** A pass fails with the fault of an entry when all entries before it
succeed. -/
theorem mapM_eq_error_iff {f : α → Except ε β} {l : List α} {e : ε} :
    l.mapM f = .error e ↔ ∃ before a after, l = before ++ a :: after ∧
      (∀ b ∈ before, ∃ v, f b = .ok v) ∧ f a = .error e := by
  induction l with
  | nil => simp
  | cons a l ih =>
    rw [List.mapM_cons, bind_eq_error_iff]
    constructor
    · -- either the first entry fails, or the fault is found among the others
      rintro (ha | ⟨v, ha, hl⟩)
      · exact ⟨[], a, l, rfl, by simp, ha⟩
      · rcases bind_eq_error_iff.mp hl with hl | ⟨vs, -, hl⟩
        · obtain ⟨before, b, after, rfl, hbefore, hb⟩ := ih.mp hl
          refine ⟨a :: before, b, after, rfl, ?_, hb⟩
          intro c hc
          rcases List.mem_cons.mp hc with rfl | hc
          · exact ⟨v, ha⟩
          · exact hbefore c hc
        · cases hl
    · rintro ⟨before, b, after, hl, hbefore, hb⟩
      cases before with
      | nil =>
        obtain ⟨rfl, -⟩ := List.cons.inj hl
        exact Or.inl hb
      | cons c before =>
        obtain ⟨rfl, rfl⟩ := List.cons.inj hl
        obtain ⟨v, ha⟩ := hbefore a List.mem_cons_self
        refine Or.inr ⟨v, ha, bind_eq_error_iff.mpr (Or.inl (ih.mpr ?_))⟩
        exact ⟨before, b, after, rfl, fun c hc => hbefore c (List.mem_cons_of_mem a hc), hb⟩

/-- A pass succeeds when every entry does on its own. -/
theorem exists_mapM_eq_ok_iff {f : α → Except ε β} {l : List α} :
    (∃ r, l.mapM f = .ok r) ↔ ∀ a ∈ l, ∃ b, f a = .ok b := by
  induction l with
  | nil => simp
  | cons a l ih =>
    rw [List.forall_mem_cons, ← ih]
    simp only [List.mapM_cons, bind_eq_ok_iff, pure_eq_ok, Except.ok.injEq]
    constructor
    · rintro ⟨_, b, hb, r, hr, -⟩
      exact ⟨⟨b, hb⟩, r, hr⟩
    · rintro ⟨⟨b, hb⟩, r, hr⟩
      exact ⟨_, b, hb, r, hr, rfl⟩

theorem length_of_mapM {f : α → Except ε β} {l : List α} {r : List β} (h : l.mapM f = .ok r) :
    r.length = l.length :=
  (mapM_eq_ok_iff.mp h).length_eq.symm

/-! ## Two computations side by side -/

/-- Two outcomes are alike: they are the same fault, or values that are related. -/
inductive Alike (R : α → β → Prop) : Except ε α → Except ε β → Prop
  | fault (e : ε) : Alike R (.error e) (.error e)
  | value {a : α} {b : β} (related : R a b) : Alike R (.ok a) (.ok b)

namespace Alike

variable {R : α → β → Prop} {x : Except ε α} {y : Except ε β}

theorem error_iff (h : Alike R x y) (e : ε) : x = .error e ↔ y = .error e := by
  cases h with
  | fault e' => simp
  | value related => simp

theorem exists_ok_iff (h : Alike R x y) : (∃ a, x = .ok a) ↔ ∃ b, y = .ok b := by
  cases h with
  | fault e => simp
  | value related => simp

theorem related (h : Alike R x y) {a : α} {b : β} (ha : x = .ok a) (hb : y = .ok b) : R a b := by
  cases h with
  | fault e => cases ha
  | value related =>
    rw [← Except.ok.inj ha, ← Except.ok.inj hb]
    exact related

theorem imp {S : α → β → Prop} (h : Alike R x y) (himp : ∀ a b, R a b → S a b) : Alike S x y := by
  cases h with
  | fault e => exact .fault e
  | value related => exact .value (himp _ _ related)

/-- **One more step.** Computations that are alike stay so when each related pair of values goes on
alike. -/
theorem bind {γ δ : Type} {S : γ → δ → Prop} {f : α → Except ε γ} {g : β → Except ε δ}
    (h : Alike R x y) (hstep : ∀ a b, R a b → Alike S (f a) (g b)) :
    Alike S (x >>= f) (y >>= g) := by
  cases h with
  | fault e => exact .fault e
  | value related => exact hstep _ _ related

/-- The same step in front of two computations. -/
theorem bind_left {γ δ : Type} {S : γ → δ → Prop} {f : α → Except ε γ} {g : α → Except ε δ}
    (x : Except ε α) (hstep : ∀ a, Alike S (f a) (g a)) : Alike S (x >>= f) (x >>= g) := by
  cases x with
  | error e => exact .fault e
  | ok a => exact hstep a

end Alike

end SessionPlan
