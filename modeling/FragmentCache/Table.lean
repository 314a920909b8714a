/-!
# Tables

A table is a finite map that lists its entries in the order in which their keys
came in.  A key that is put again keeps its place.
-/

namespace FragmentCache

/-- A finite map. -/
structure Table (κ α : Type) where
  /-- Keys with their values. -/
  entries : List (κ × α) := []
  /-- Every key is listed once. -/
  nodup : (entries.map Prod.fst).Nodup := by simp

namespace Table

variable {κ α : Type}

instance : Inhabited (Table κ α) := ⟨{}⟩

/-- The table without entries. -/
def empty : Table κ α := {}

/-- The keys, the oldest first. -/
def keys (table : Table κ α) : List κ := table.entries.map Prod.fst

/-- The values in the order of the keys. -/
def values (table : Table κ α) : List α := table.entries.map Prod.snd

/-- Number of entries. -/
def size (table : Table κ α) : Nat := table.entries.length

variable [DecidableEq κ]

/-- The value under a key. -/
def find? (table : Table κ α) (key : κ) : Option α := table.entries.lookup key

/-- Whether a key is listed. -/
def contains (table : Table κ α) (key : κ) : Bool := (table.find? key).isSome

/-- Put a value into a list of entries. -/
def putEntry (key : κ) (value : α) : List (κ × α) → List (κ × α)
  | [] => [(key, value)]
  | (other, old) :: rest =>
    if other = key then (key, value) :: rest else (other, old) :: putEntry key value rest

theorem keys_putEntry (key : κ) (value : α) (entries : List (κ × α)) :
    (putEntry key value entries).map Prod.fst =
      if key ∈ entries.map Prod.fst then entries.map Prod.fst
      else entries.map Prod.fst ++ [key] := by
  induction entries with
  | nil => rfl
  | cons entry rest ih =>
    obtain ⟨other, old⟩ := entry
    rw [putEntry]
    split
    · next same => simp [same]
    · next differ =>
      have differ' : ¬key = other := fun same => differ same.symm
      simp only [List.map_cons, ih, List.mem_cons, differ', false_or]
      split <;> simp

theorem nodup_putEntry
    {entries : List (κ × α)}
    (nodup : (entries.map Prod.fst).Nodup)
    (key : κ)
    (value : α) :
    ((putEntry key value entries).map Prod.fst).Nodup := by
  rw [keys_putEntry]
  split
  · exact nodup
  · next absent =>
    refine List.nodup_append.2 ⟨nodup, by simp, fun other listed last same => ?_⟩
    rw [List.mem_singleton] at same
    rintro rfl
    exact absent (same ▸ listed)

/-- Put a value under a key. -/
def put (table : Table κ α) (key : κ) (value : α) : Table κ α where
  entries := putEntry key value table.entries
  nodup := nodup_putEntry table.nodup key value

/-- Remove a key. -/
def erase (table : Table κ α) (key : κ) : Table κ α where
  entries := table.entries.filter fun entry => !decide (entry.1 = key)
  nodup := table.nodup.sublist (List.filter_sublist.map Prod.fst)

theorem lookup_entry (key other : κ) (value : α) (rest : List (κ × α)) :
    ((key, value) :: rest).lookup other =
      if other = key then some value else rest.lookup other := by
  by_cases same : other = key
  · simp [same]
  · have differ : (other == key) = false := by simpa using same
    simp [List.lookup_cons, differ, same]

theorem lookup_putEntry (key other : κ) (value : α) (entries : List (κ × α)) :
    (putEntry key value entries).lookup other =
      if other = key then some value else entries.lookup other := by
  induction entries with
  | nil => rw [putEntry, lookup_entry]
  | cons entry rest ih =>
    obtain ⟨name, old⟩ := entry
    rw [putEntry]
    split <;> grind [lookup_entry]

theorem find?_put (table : Table κ α) (key other : κ) (value : α) :
    (table.put key value).find? other =
      if other = key then some value else table.find? other :=
  lookup_putEntry key other value table.entries

theorem find?_erase (table : Table κ α) (key other : κ) :
    (table.erase key).find? other = if other = key then none else table.find? other := by
  simp only [find?, erase]
  induction table.entries with
  | nil => simp
  | cons entry rest ih =>
    obtain ⟨name, old⟩ := entry
    rw [List.filter_cons]
    split <;> grind [lookup_entry]

/-- The keys of a table are those under which it holds a value. -/
theorem mem_keys_iff {table : Table κ α} {key : κ} :
    key ∈ table.keys ↔ (table.find? key).isSome = true := by
  simp only [keys, find?]
  induction table.entries with
  | nil => simp
  | cons entry rest ih =>
    obtain ⟨name, old⟩ := entry
    grind [lookup_entry]

end Table
end FragmentCache
