/-
Finite maps from texts, in the order of their keys.

Server settings, the query of a connection string and a set of environment variables are all such
maps. A map is its list of entries with keys strictly ascending in the order of code points, which
is also the order of their UTF-8 bytes. So two maps with the same lookups are equal, and a map is
printed in one order whatever the order of insertion was.
-/
set_option autoImplicit false

namespace SessionPlan

/-- The keys of a list of entries ascend strictly. -/
def KeysAscend {α : Type} (entries : List (String × α)) : Prop :=
  entries.Pairwise (fun a b => a.1 < b.1)

/-- Of two texts one comes first, or they are equal. -/
theorem eq_of_not_lt {a b : String} (h₁ : ¬ a < b) (h₂ : ¬ b < a) : a = b :=
  String.le_antisymm (String.not_lt.mp h₂) (String.not_lt.mp h₁)

/-- A finite map from texts to values. -/
structure TextMap (α : Type) where
  entries : List (String × α)
  ascending : KeysAscend entries
deriving DecidableEq

namespace TextMap

variable {α : Type}

/-! ## Entry lists -/

/-- Puts an entry in its place; an entry of the same key gives way. -/
def insertEntry (key : String) (value : α) : List (String × α) → List (String × α)
  | [] => [(key, value)]
  | e :: r =>
    if key < e.1 then (key, value) :: e :: r
    else if e.1 < key then e :: insertEntry key value r
    else (key, value) :: r

/-- The keys of the new list are the old ones and the new one. -/
theorem mem_insertEntry {key : String} {value : α} {l : List (String × α)} {e : String × α}
    (h : e ∈ insertEntry key value l) : e.1 = key ∨ e ∈ l := by
  induction l with
  | nil => simp [insertEntry] at h; exact Or.inl (by rw [h])
  | cons d r ih =>
    rw [insertEntry] at h
    split at h
    · rcases List.mem_cons.mp h with rfl | h
      · exact Or.inl rfl
      · exact Or.inr h
    · split at h
      · rcases List.mem_cons.mp h with rfl | h
        · exact Or.inr List.mem_cons_self
        · exact (ih h).imp_right (List.mem_cons_of_mem d)
      · rcases List.mem_cons.mp h with rfl | h
        · exact Or.inl rfl
        · exact Or.inr (List.mem_cons_of_mem d h)

theorem keysAscend_insertEntry {key : String} {value : α} {l : List (String × α)}
    (h : KeysAscend l) : KeysAscend (insertEntry key value l) := by
  induction l with
  | nil => exact List.pairwise_singleton _ _
  | cons d r ih =>
    obtain ⟨hd, hr⟩ := List.pairwise_cons.mp h
    rw [insertEntry]
    split
    next lt =>
      refine List.pairwise_cons.mpr ⟨fun e he => ?_, h⟩
      rcases List.mem_cons.mp he with rfl | he
      · exact lt
      · exact String.lt_trans lt (hd e he)
    next =>
      split
      next gt =>
        refine List.pairwise_cons.mpr ⟨fun e he => ?_, ih hr⟩
        rcases mem_insertEntry he with hk | he
        · rw [hk]; exact gt
        · exact hd e he
      next ge gt =>
        have hk : key = d.1 := eq_of_not_lt ge gt
        exact List.pairwise_cons.mpr ⟨fun e he => by rw [hk]; exact hd e he, hr⟩

/-! ## Maps -/

/-- The map without entries. -/
def empty : TextMap α := ⟨[], List.Pairwise.nil⟩

instance : Inhabited (TextMap α) := ⟨empty⟩

/-- Whether a map has no entries. -/
def isEmpty (m : TextMap α) : Bool := m.entries.isEmpty

/-- The value at a key. -/
def get? (m : TextMap α) (key : String) : Option α := m.entries.lookup key

/-- A map with a value at a key, whatever was there before. -/
def insert (m : TextMap α) (key : String) (value : α) : TextMap α :=
  ⟨insertEntry key value m.entries, keysAscend_insertEntry m.ascending⟩

/-- A map without a key. -/
def erase (m : TextMap α) (key : String) : TextMap α :=
  ⟨m.entries.filter (fun e => e.1 ≠ key), m.ascending.filter _⟩

/-- A map without several keys. -/
def eraseAll (m : TextMap α) (keys : List String) : TextMap α :=
  ⟨m.entries.filter (fun e => e.1 ∉ keys), m.ascending.filter _⟩

/-- A map with the entries of a list put in one after the other, so that the last value of a key
counts. -/
def insertAll (m : TextMap α) (entries : List (String × α)) : TextMap α :=
  entries.foldl (fun m e => m.insert e.1 e.2) m

/-- The map of a list of entries; the last value of a key counts. -/
def ofList (entries : List (String × α)) : TextMap α := empty.insertAll entries

/-- Two maps together; where both have a key, the value of `winner` counts. -/
def override (m winner : TextMap α) : TextMap α := m.insertAll winner.entries

/-! ## Lookups -/

@[simp] theorem get?_empty (key : String) : (empty : TextMap α).get? key = none := rfl

theorem lookup_cons_eq (k : String) (d : String × α) (r : List (String × α)) :
    (d :: r).lookup k = if k = d.1 then some d.2 else r.lookup k := by
  rw [List.lookup_cons]
  by_cases h : k = d.1
  · rw [if_pos h, beq_iff_eq.mpr h]
  · rw [if_neg h, beq_eq_false_iff_ne.mpr h]

theorem lookup_insertEntry (key : String) (value : α) (l : List (String × α)) (k : String) :
    (insertEntry key value l).lookup k = if k = key then some value else l.lookup k := by
  induction l with
  | nil => rw [insertEntry, lookup_cons_eq]
  | cons d r ih =>
    rw [insertEntry]
    split
    · rw [lookup_cons_eq]
    · split
      next gt =>
        have hd : d.1 ≠ key := fun h => String.lt_irrefl key (h ▸ gt)
        rw [lookup_cons_eq, lookup_cons_eq, ih]
        by_cases h : k = d.1
        · rw [if_pos h, if_pos h, if_neg (h ▸ hd)]
        · rw [if_neg h, if_neg h]
      next ge gt =>
        have hk : key = d.1 := eq_of_not_lt ge gt
        rw [lookup_cons_eq, lookup_cons_eq, hk]
        by_cases h : k = d.1
        · rw [if_pos h, if_pos h]
        · rw [if_neg h, if_neg h, if_neg h]

/-- **Insertion, seen through lookups.** -/
theorem get?_insert (m : TextMap α) (key : String) (value : α) (k : String) :
    (m.insert key value).get? k = if k = key then some value else m.get? k :=
  lookup_insertEntry key value m.entries k

end TextMap

end SessionPlan
