/-
Maps from texts are their lookups.

Since the entries of a map ascend strictly, an entry is in the list exactly when it is looked up,
and two maps with the same lookups are the same list. So a law about maps is proved lookup by
lookup, and the order in which entries are put in never has to be followed further than the last
value of a key.
-/
import SessionPlan.TextMap
import Mathlib.Data.List.Forall2
import Mathlib.Data.List.Perm.Basic

set_option autoImplicit false

namespace SessionPlan

namespace TextMap

variable {α : Type}

/-! ## Entries and lookups -/

/-- Distinct keys: no two entries of a list have the same one. -/
def KeysDistinct (entries : List (String × α)) : Prop :=
  entries.Pairwise fun a b => a.1 ≠ b.1

theorem KeysDistinct.perm {l l' : List (String × α)} (h : l.Perm l') (hl : KeysDistinct l) :
    KeysDistinct l' :=
  (h.pairwise_iff fun hab hba => hab hba.symm).mp hl

theorem keysDistinct_entries (m : TextMap α) : KeysDistinct m.entries := by
  refine m.ascending.imp fun {a b} hlt heq => ?_
  rw [heq] at hlt
  exact String.lt_irrefl b.1 hlt

/-- Among distinct keys the entry that is looked up is the one in the list. -/
theorem lookup_eq_some_iff_mem {l : List (String × α)} (h : KeysDistinct l) {key : String}
    {value : α} : l.lookup key = some value ↔ (key, value) ∈ l := by
  induction l with
  | nil => simp
  | cons d r ih =>
    obtain ⟨hd, hr⟩ := List.pairwise_cons.mp h
    rw [lookup_cons_eq, List.mem_cons, ← ih hr]
    by_cases hk : key = d.1
    · -- the key of the first entry does not occur again
      have hnone : r.lookup key ≠ some value := by
        intro hsome
        exact hd (key, value) ((ih hr).mp hsome) hk.symm
      rw [if_pos hk]
      constructor
      · intro hv
        exact Or.inl (Prod.ext hk (Option.some.inj hv).symm)
      · rintro (hv | hv)
        · rw [← hv]
        · exact absurd hv hnone
    · rw [if_neg hk]
      constructor
      · exact Or.inr
      · rintro (hv | hv)
        · exact absurd (congrArg Prod.fst hv) hk
        · exact hv

/-- Among distinct keys the order does not matter to a lookup. -/
theorem lookup_of_perm {l l' : List (String × α)} (hperm : l.Perm l') (h : KeysDistinct l)
    (key : String) : l'.lookup key = l.lookup key := by
  refine Option.ext fun value => ?_
  rw [lookup_eq_some_iff_mem (h.perm hperm), lookup_eq_some_iff_mem h, hperm.mem_iff]

/-- A lookup in a list whose values are changed. -/
theorem lookup_map {β : Type} (f : α → β) (l : List (String × α)) (key : String) :
    (l.map fun e => (e.1, f e.2)).lookup key = (l.lookup key).map f := by
  induction l with
  | nil => rfl
  | cons e l ih =>
    rw [List.map_cons, lookup_cons_eq, lookup_cons_eq, ih]
    by_cases hk : key = e.1
    · rw [if_pos hk, if_pos hk, Option.map_some]
    · rw [if_neg hk, if_neg hk]

/-- Entries with the same keys and related values are looked up alike. -/
theorem rel_lookup_of_forall₂ {β : Type} {R : α → β → Prop} {l : List (String × α)}
    {l' : List (String × β)} (h : List.Forall₂ (fun e e' => e.1 = e'.1 ∧ R e.2 e'.2) l l')
    (key : String) : Option.Rel R (l.lookup key) (l'.lookup key) := by
  induction h with
  | nil => exact .none
  | @cons e e' l l' hentry _ ih =>
    rw [lookup_cons_eq, lookup_cons_eq, ← hentry.1]
    by_cases hk : key = e.1
    · rw [if_pos hk, if_pos hk]
      exact .some hentry.2
    · rw [if_neg hk, if_neg hk]
      exact ih

theorem KeysDistinct.of_forall₂ {β : Type} {R : α → β → Prop} {l : List (String × α)}
    {l' : List (String × β)} (h : List.Forall₂ (fun e e' => e.1 = e'.1 ∧ R e.2 e'.2) l l')
    (hl : KeysDistinct l) : KeysDistinct l' := by
  have hkeys : l'.map Prod.fst = l.map Prod.fst := by
    induction h with
    | nil => rfl
    | cons hentry _ ih =>
      rw [List.map_cons, List.map_cons, ih (List.pairwise_cons.mp hl).2, hentry.1]
  have hdistinct : (l'.map Prod.fst).Pairwise (· ≠ ·) := by
    rw [hkeys, List.pairwise_map]
    exact hl
  rw [List.pairwise_map] at hdistinct
  exact hdistinct

theorem get?_eq_some_iff {m : TextMap α} {key : String} {value : α} :
    m.get? key = some value ↔ (key, value) ∈ m.entries :=
  lookup_eq_some_iff_mem m.keysDistinct_entries

/-- The entries of a map before one of its entries are those with lesser keys. -/
theorem mem_before_iff {m : TextMap α} {before after : List (String × α)}
    {key : String} {value : α} (h : m.entries = before ++ (key, value) :: after)
    {e : String × α} : e ∈ before ↔ e ∈ m.entries ∧ e.1 < key := by
  have hascending := m.ascending
  rw [h] at hascending ⊢
  obtain ⟨-, hafter, hbefore⟩ := List.pairwise_append.mp hascending
  obtain ⟨hgreater, -⟩ := List.pairwise_cons.mp hafter
  constructor
  · intro he
    exact ⟨List.mem_append_left _ he, hbefore e he _ List.mem_cons_self⟩
  · rintro ⟨he, hlt⟩
    rcases List.mem_append.mp he with he | he
    · exact he
    · rcases List.mem_cons.mp he with rfl | he
      · exact absurd hlt (String.lt_irrefl _)
      · exact absurd hlt (String.lt_asymm (hgreater e he))

/-- A map is empty when every lookup fails. -/
theorem isEmpty_iff {m : TextMap α} : m.isEmpty = true ↔ ∀ key, m.get? key = none := by
  rw [isEmpty, List.isEmpty_iff]
  constructor
  · intro hnil key
    rw [get?, hnil, List.lookup_nil]
  · intro hnone
    cases hentries : m.entries with
    | nil => rfl
    | cons e entries =>
      have hfirst : m.get? e.1 = some e.2 := by
        rw [get?_eq_some_iff, hentries]
        exact List.mem_cons_self
      rw [hnone] at hfirst
      cases hfirst

/-- **Extensionality.** Two maps with the same lookups are equal. -/
theorem ext_get? {m n : TextMap α} (h : ∀ key, m.get? key = n.get? key) : m = n := by
  have hmem : ∀ e : String × α, e ∈ m.entries ↔ e ∈ n.entries := by
    intro e
    rw [← get?_eq_some_iff, ← get?_eq_some_iff, h]
  have hnodup : ∀ m : TextMap α, m.entries.Nodup := fun m =>
    m.keysDistinct_entries.imp fun hne heq => hne (congrArg Prod.fst heq)
  -- with the same members, and without repetition, both lists are sorted forms of one another
  have hperm : m.entries.Perm n.entries :=
    (List.perm_ext_iff_of_nodup (hnodup m) (hnodup n)).mpr hmem
  have hentries : m.entries = n.entries :=
    hperm.eq_of_pairwise (fun a b _ _ hab hba => absurd hab (String.lt_asymm hba))
      m.ascending n.ascending
  cases m
  cases n
  cases hentries
  rfl

/-! ## Many insertions -/

theorem insertAll_cons (m : TextMap α) (e : String × α) (l : List (String × α)) :
    m.insertAll (e :: l) = (m.insert e.1 e.2).insertAll l := rfl

/-- **After many insertions** the value of a key is the last one that was put in. -/
theorem get?_insertAll (m : TextMap α) (l : List (String × α)) (key : String) :
    (m.insertAll l).get? key = (l.reverse.lookup key).or (m.get? key) := by
  induction l generalizing m with
  | nil => rfl
  | cons e l ih =>
    rw [insertAll_cons, ih, List.reverse_cons, List.lookup_append, get?_insert, Option.or_assoc]
    congr 1
    rw [lookup_cons_eq]
    by_cases hk : key = e.1
    · rw [if_pos hk, if_pos hk]
      rfl
    · rw [if_neg hk, if_neg hk]
      rfl

/-- What is looked up in the map of a list stands in the list. -/
theorem mem_of_get?_ofList {l : List (String × α)} {key : String} {value : α}
    (h : (ofList l).get? key = some value) : (key, value) ∈ l := by
  rw [ofList, get?_insertAll, get?_empty, Option.or_none] at h
  obtain ⟨before, after, hl, -⟩ := List.lookup_eq_some_iff.mp h
  rw [← List.mem_reverse, hl]
  exact List.mem_append_right _ List.mem_cons_self

/-- Insertions at different keys may change places. -/
theorem insert_comm (m : TextMap α) {j k : String} (h : j ≠ k) (v w : α) :
    (m.insert j v).insert k w = (m.insert k w).insert j v := by
  refine ext_get? fun key => ?_
  simp only [get?_insert]
  by_cases hj : key = j
  · rw [if_pos hj, if_neg (fun hk => h (hj.symm.trans hk)), if_pos hj]
  · rw [if_neg hj, if_neg hj]

/-- An entry may be put in last where no later entry has its key. -/
theorem insertAll_insert (m : TextMap α) {key : String} (value : α) {l : List (String × α)}
    (h : ∀ e ∈ l, e.1 ≠ key) :
    (m.insert key value).insertAll l = (m.insertAll l).insert key value := by
  induction l generalizing m with
  | nil => rfl
  | cons e l ih =>
    have hne : key ≠ e.1 := (h e List.mem_cons_self).symm
    rw [insertAll_cons, insertAll_cons, insert_comm m hne]
    exact ih (m.insert e.1 e.2) fun d hd => h d (List.mem_cons_of_mem e hd)

/-- The map of a list with distinct keys has the lookups of the list. -/
theorem get?_ofList_of_distinct {l : List (String × α)} (h : KeysDistinct l) (key : String) :
    (ofList l).get? key = l.lookup key := by
  rw [ofList, get?_insertAll, get?_empty, Option.or_none,
    lookup_of_perm (List.reverse_perm l).symm h]

/-- And it has the same entries. -/
theorem mem_entries_ofList_iff {l : List (String × α)} (h : KeysDistinct l) {e : String × α} :
    e ∈ (ofList l).entries ↔ e ∈ l := by
  rw [← get?_eq_some_iff, get?_ofList_of_distinct h, lookup_eq_some_iff_mem h]

/-- **Any order will do.** The entries of a map, put in one after the other in any order, give the
map back. -/
theorem ofList_of_perm {m : TextMap α} {l : List (String × α)} (h : l.Perm m.entries) :
    ofList l = m := by
  refine ext_get? fun key => ?_
  rw [get?_ofList_of_distinct (m.keysDistinct_entries.perm h.symm),
    lookup_of_perm h.symm m.keysDistinct_entries, get?]

/-! ## Several maps -/

theorem get?_eraseAll (m : TextMap α) (keys : List String) (key : String) :
    (m.eraseAll keys).get? key = if key ∈ keys then none else m.get? key := by
  refine Option.ext fun value => ?_
  rw [get?_eq_some_iff, eraseAll, List.mem_filter, ← get?_eq_some_iff]
  by_cases hkey : key ∈ keys
  · simp [hkey]
  · simp [hkey]

theorem get?_erase (m : TextMap α) (erased key : String) :
    (m.erase erased).get? key = if key = erased then none else m.get? key := by
  refine Option.ext fun value => ?_
  rw [get?_eq_some_iff, erase, List.mem_filter, ← get?_eq_some_iff]
  by_cases hkey : key = erased
  · simp [hkey]
  · simp [hkey]

/-- Where both maps have a key, the winner decides. -/
theorem get?_override (m winner : TextMap α) (key : String) :
    (m.override winner).get? key = (winner.get? key).or (m.get? key) := by
  -- no key of the winner occurs twice, so its entries are looked up in any order
  rw [override, get?_insertAll,
    lookup_of_perm (List.reverse_perm winner.entries).symm winner.keysDistinct_entries]
  rfl

/-- The first entry of a list counts where the others do not have its key. -/
theorem ofList_cons (e : String × α) (l : List (String × α)) :
    ofList (e :: l) = (empty.insert e.1 e.2).override (ofList l) := by
  refine ext_get? fun key => ?_
  rw [get?_override, ofList, insertAll_cons, get?_insertAll, ofList, get?_insertAll, get?_empty,
    Option.or_none]

end TextMap

end SessionPlan
