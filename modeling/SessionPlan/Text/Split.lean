/-
Finding a character or a word inside a text.

A text is cut in two at a character, which belongs to neither part. The first cut takes it where it
stands first, the last cut where it stands last; each fails exactly when the character does not
occur, and both parts put together around the character give the text back.
-/
set_option autoImplicit false

namespace SessionPlan.Text

/-- The parts before and after the first `sep`, if there is one. -/
def cutAtFirst (sep : Char) : List Char → Option (List Char × List Char)
  | [] => none
  | c :: r =>
    if c = sep then some ([], r)
    else (cutAtFirst sep r).map fun (before, after) => (c :: before, after)

/-- The parts before and after the last `sep`, if there is one. -/
def cutAtLast (sep : Char) : List Char → Option (List Char × List Char)
  | [] => none
  | c :: r =>
    match cutAtLast sep r with
    | some (before, after) => some (c :: before, after)
    | none => if c = sep then some ([], r) else none

/-- The parts before and after the first `sep`; all of the text before it if there is none. -/
def cutOff (sep : Char) (s : List Char) : List Char × List Char := (cutAtFirst sep s).getD (s, [])

/-- Whether `word` occurs somewhere in a text. -/
def holds (word : List Char) : List Char → Bool
  | [] => word.isEmpty
  | c :: r => word.isPrefixOf (c :: r) || holds word r

/-- A word occurs in a text when the text is the word with something around it. -/
theorem holds_iff {word s : List Char} : holds word s = true ↔ word <:+: s := by
  induction s with
  | nil => simp [holds]
  | cons c r ih => simp [holds, ih, List.infix_cons_iff]

/-- **The first cut.** The part before it is free of the character. -/
theorem cutAtFirst_eq_some_iff {sep : Char} {s before after : List Char} :
    cutAtFirst sep s = some (before, after) ↔ s = before ++ sep :: after ∧ sep ∉ before := by
  induction s generalizing before after with
  | nil => simp [cutAtFirst]
  | cons c r ih =>
    rw [cutAtFirst]
    by_cases h : c = sep
    · subst h
      cases before with
      | nil => simp
      | cons d p => simp; intro hd _ h'; exact absurd hd h'
    · cases before with
      | nil => simp [h]
      | cons d p =>
        simp only [h, if_false, Option.map_eq_some_iff, Prod.exists, Prod.mk.injEq,
          List.cons.injEq, List.cons_append, List.mem_cons, not_or]
        constructor
        · rintro ⟨b, a, hb, ⟨rfl, rfl⟩, rfl⟩
          obtain ⟨hs, hn⟩ := ih.mp hb
          exact ⟨⟨rfl, hs⟩, fun e => h e.symm, hn⟩
        · rintro ⟨⟨rfl, hs⟩, _, hn⟩
          exact ⟨p, after, ih.mpr ⟨hs, hn⟩, ⟨rfl, rfl⟩, rfl⟩

/-- There is no first cut exactly when the character does not occur. -/
theorem cutAtFirst_eq_none_iff {sep : Char} {s : List Char} :
    cutAtFirst sep s = none ↔ sep ∉ s := by
  induction s with
  | nil => simp [cutAtFirst]
  | cons c r ih =>
    rw [cutAtFirst]
    by_cases h : c = sep
    · simp [h]
    · simp [h, ih, Ne.symm h]

/-- There is no last cut exactly when the character does not occur. -/
theorem cutAtLast_eq_none_iff {sep : Char} {s : List Char} :
    cutAtLast sep s = none ↔ sep ∉ s := by
  induction s with
  | nil => simp [cutAtLast]
  | cons c r ih =>
    rw [cutAtLast]
    cases hr : cutAtLast sep r with
    | some p =>
      have hm : sep ∈ r := Classical.not_not.mp fun hn => by simp [ih.mpr hn] at hr
      simp [hm]
    | none =>
      have hm : sep ∉ r := ih.mp hr
      by_cases h : c = sep
      · simp [h]
      · simp [h, hm, Ne.symm h]

/-- **The last cut.** The part after it is free of the character. -/
theorem cutAtLast_eq_some_iff {sep : Char} {s before after : List Char} :
    cutAtLast sep s = some (before, after) ↔ s = before ++ sep :: after ∧ sep ∉ after := by
  induction s generalizing before after with
  | nil => simp [cutAtLast]
  | cons c r ih =>
    rw [cutAtLast]
    cases hr : cutAtLast sep r with
    | some p =>
      obtain ⟨b, a⟩ := p
      obtain ⟨hs, hn⟩ := ih.mp hr
      cases before with
      | nil =>
        simp only [Option.some.injEq, Prod.mk.injEq, List.nil_append, List.cons.injEq,
          reduceCtorEq, false_and, false_iff, not_and]
        rintro ⟨_, rfl⟩ hn'
        exact hn' (hs ▸ List.mem_append_right b List.mem_cons_self)
      | cons d q =>
        simp only [Option.some.injEq, Prod.mk.injEq, List.cons.injEq, List.cons_append]
        constructor
        · rintro ⟨⟨rfl, rfl⟩, rfl⟩
          exact ⟨⟨rfl, hs⟩, hn⟩
        · rintro ⟨⟨rfl, hs'⟩, hn'⟩
          have e := ih.mpr ⟨hs', hn'⟩
          rw [hr] at e
          cases e
          exact ⟨⟨rfl, rfl⟩, rfl⟩
    | none =>
      have hm : sep ∉ r := cutAtLast_eq_none_iff.mp hr
      by_cases h : c = sep
      · subst h
        cases before with
        | nil =>
          simp only [if_true, Option.some.injEq, Prod.mk.injEq, true_and, List.nil_append,
            List.cons.injEq]
          exact ⟨fun e => ⟨e, e ▸ hm⟩, fun e => e.1⟩
        | cons d q =>
          simp only [if_true, Option.some.injEq, Prod.mk.injEq, List.nil_eq, reduceCtorEq,
            false_and, List.cons_append, List.cons.injEq, false_iff, not_and]
          rintro ⟨_, hs⟩ _
          exact hm (hs ▸ List.mem_append_right q List.mem_cons_self)
      · cases before with
        | nil => simp [h]
        | cons d q =>
          simp only [if_neg h, reduceCtorEq, List.cons_append, List.cons.injEq, false_iff, not_and]
          rintro ⟨_, hs⟩ _
          exact hm (hs ▸ List.mem_append_right q List.mem_cons_self)

end SessionPlan.Text
