/-! Tables: values under keys, each key at most once. -/

namespace GossipNames

structure Table (κ α : Type) where
  entries : List (κ × α)
  deriving DecidableEq, Repr

namespace Table

variable {κ α : Type}

def empty : Table κ α where
  entries := []

def keys (table : Table κ α) : List κ :=
  table.entries.map (·.1)

def size (table : Table κ α) : Nat :=
  table.entries.length

variable [DecidableEq κ]

private def find? (key : κ) : List (κ × α) → Option α
  | [] => none
  | entry :: rest => if entry.1 = key then some entry.2 else find? key rest

def get? (table : Table κ α) (key : κ) : Option α :=
  find? key table.entries

def contains (table : Table κ α) (key : κ) : Bool :=
  (table.get? key).isSome

def erase (table : Table κ α) (key : κ) : Table κ α where
  entries := table.entries.filter (·.1 ≠ key)

/-- A new key goes behind the others; a known one keeps its place. -/
def put (table : Table κ α) (key : κ) (value : α) : Table κ α where
  entries :=
    if key ∈ table.keys then
      table.entries.map fun entry => if entry.1 = key then (key, value) else entry
    else table.entries ++ [(key, value)]

private theorem find?_append (key : κ) (first second : List (κ × α)) :
    find? key (first ++ second) = (find? key first).or (find? key second) := by
  induction first with
  | nil => simp [find?]
  | cons entry rest ih => by_cases same : entry.1 = key <;> simp [find?, same, ih]

private theorem find?_filter (key other : κ) (entries : List (κ × α)) :
    find? other (entries.filter (·.1 ≠ key))
      = if other = key then none else find? other entries := by
  induction entries with
  | nil => simp [find?]
  | cons entry rest ih => grind [find?]

private theorem find?_map (key other : κ) (value : α) (entries : List (κ × α)) :
    find? other (entries.map fun entry => if entry.1 = key then (key, value) else entry)
      = if other = key then (find? key entries).map fun _ => value else find? other entries := by
  induction entries with
  | nil => simp [find?]
  | cons entry rest ih => grind [find?]

private theorem find?_isSome (key : κ) (entries : List (κ × α)) :
    (find? key entries).isSome = true ↔ key ∈ entries.map (·.1) := by
  induction entries with
  | nil => simp [find?]
  | cons entry rest ih => grind [find?]

private theorem find?_eq_some (key : κ) (value : α) {entries : List (κ × α)}
    (distinct : (entries.map (·.1)).Nodup) :
    find? key entries = some value ↔ (key, value) ∈ entries := by
  induction entries with
  | nil => simp [find?]
  | cons entry rest ih =>
    obtain ⟨absent, distinct⟩ := List.nodup_cons.mp distinct
    unfold find?
    split
    · rename_i same
      subst same
      have elsewhere : (entry.1, value) ∉ rest := fun member =>
        absent (List.mem_map_of_mem (f := (·.1)) member)
      rw [List.mem_cons, or_iff_left elsewhere, Option.some.injEq, eq_comm, Prod.ext_iff]
      simp
    · rename_i unlike
      rw [ih distinct, List.mem_cons, or_iff_right]
      rintro rfl
      exact unlike rfl

@[simp] theorem get?_empty (key : κ) : (empty : Table κ α).get? key = none := rfl

theorem isSome_get?_iff (table : Table κ α) (key : κ) :
    (table.get? key).isSome = true ↔ key ∈ table.keys :=
  find?_isSome key table.entries

theorem get?_eq_some_iff {table : Table κ α} (distinct : table.keys.Nodup) (key : κ) (value : α) :
    table.get? key = some value ↔ (key, value) ∈ table.entries :=
  find?_eq_some key value distinct

theorem get?_put (table : Table κ α) (key other : κ) (value : α) :
    (table.put key value).get? other = if other = key then some value else table.get? other := by
  by_cases known : key ∈ table.keys
  · have found := (find?_isSome key table.entries).mpr known
    simp only [get?, put, known, if_true, find?_map]
    obtain ⟨old, old_eq⟩ := Option.isSome_iff_exists.mp found
    simp [old_eq]
  · have absent : find? key table.entries = none := by
      simpa using mt (find?_isSome key table.entries).mp known
    simp only [get?, put, known, if_false, find?_append]
    by_cases same : other = key
    · subst same; simp [absent, find?]
    · simp [same, find?, Ne.symm same]

theorem get?_erase (table : Table κ α) (key other : κ) :
    (table.erase key).get? other = if other = key then none else table.get? other :=
  find?_filter key other table.entries

end Table

end GossipNames
