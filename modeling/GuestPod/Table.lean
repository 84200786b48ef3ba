/-
This file holds finite tables with one value for each key.
-/

namespace GuestPod

/-- No key occurs twice. -/
structure Table (κ α : Type) where
  entries : List (κ × α)
  distinct : (entries.map (·.1)).Nodup
  deriving Repr

namespace Table

variable {κ α : Type} [DecidableEq κ]

instance [DecidableEq α] : DecidableEq (Table κ α) := fun first second =>
  decidable_of_iff (first.entries = second.entries) (by
    cases first; cases second; simp)

def empty : Table κ α := ⟨[], List.nodup_nil⟩

instance : Inhabited (Table κ α) := ⟨empty⟩

def get? (table : Table κ α) (key : κ) : Option α :=
  (table.entries.find? (·.1 = key)).map (·.2)

def contains (table : Table κ α) (key : κ) : Bool :=
  (table.get? key).isSome

def size (table : Table κ α) : Nat :=
  table.entries.length

def isEmpty (table : Table κ α) : Bool :=
  table.entries.isEmpty

def keys (table : Table κ α) : List κ :=
  table.entries.map (·.1)

omit [DecidableEq κ] in
theorem distinct_filter {entries : List (κ × α)} (distinct : (entries.map (·.1)).Nodup)
    (keep : κ × α → Bool) : ((entries.filter keep).map (·.1)).Nodup :=
  distinct.sublist (List.filter_sublist.map _)

theorem notMem_filter (entries : List (κ × α)) (key : κ) :
    key ∉ ((entries.filter (·.1 ≠ key)).map (·.1)) := by
  intro member
  obtain ⟨entry, kept, same⟩ := List.mem_map.1 member
  simp [same] at kept

def remove (table : Table κ α) (key : κ) : Table κ α :=
  ⟨table.entries.filter (·.1 ≠ key), distinct_filter table.distinct _⟩

/-- A new value replaces the old one. -/
def put (table : Table κ α) (key : κ) (value : α) : Table κ α :=
  ⟨(key, value) :: table.entries.filter (·.1 ≠ key),
    List.nodup_cons.2 ⟨notMem_filter table.entries key, distinct_filter table.distinct _⟩⟩

theorem find?_filter_ne (entries : List (κ × α)) {key other : κ} (differ : key ≠ other) :
    (entries.filter (·.1 ≠ key)).find? (·.1 = other) = entries.find? (·.1 = other) := by
  induction entries with
  | nil => rfl
  | cons entry rest ih =>
      by_cases removed : entry.1 = key
      · have unwanted : entry.1 ≠ other := removed ▸ differ
        simp only [ne_eq, removed, not_true_eq_false, decide_false, Bool.false_eq_true,
          not_false_eq_true, List.filter_cons_of_neg]
        rw [List.find?_cons_of_neg (by simpa using unwanted)]
        exact ih
      · rw [List.filter_cons_of_pos (by simpa using removed)]
        by_cases wanted : entry.1 = other
        · rw [List.find?_cons_of_pos (by simpa using wanted),
            List.find?_cons_of_pos (by simpa using wanted)]
        · rw [List.find?_cons_of_neg (by simpa using wanted),
            List.find?_cons_of_neg (by simpa using wanted), ih]

theorem find?_filter_self (entries : List (κ × α)) (key : κ) :
    (entries.filter (·.1 ≠ key)).find? (·.1 = key) = none := by
  rw [List.find?_eq_none]
  intro entry kept
  have := (List.mem_filter.1 kept).2
  simpa using this

@[simp] theorem get?_empty (key : κ) : (empty : Table κ α).get? key = none := rfl

theorem get?_put (table : Table κ α) (key other : κ) (value : α) :
    (table.put key value).get? other = if key = other then some value else table.get? other := by
  by_cases same : key = other
  · simp [get?, put, same]
  · simp only [get?, put, same, if_false]
    rw [List.find?_cons_of_neg (by simpa using same), find?_filter_ne table.entries same]

theorem get?_remove (table : Table κ α) (key other : κ) :
    (table.remove key).get? other = if key = other then none else table.get? other := by
  by_cases same : key = other
  · subst same
    simp only [get?, remove, if_true, find?_filter_self, Option.map_none]
  · simp only [get?, remove, same, if_false, find?_filter_ne table.entries same]

theorem mem_keys_iff (table : Table κ α) (key : κ) :
    key ∈ table.keys ↔ (table.get? key).isSome := by
  simp only [keys, List.mem_map, get?, Option.isSome_map, List.find?_isSome, decide_eq_true_eq]

omit [DecidableEq κ] in
theorem nodup_keys (table : Table κ α) : table.keys.Nodup := table.distinct

omit [DecidableEq κ] in
theorem length_keys (table : Table κ α) : table.keys.length = table.size := List.length_map _

end Table

end GuestPod
