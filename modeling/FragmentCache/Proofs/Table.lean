import FragmentCache.Table
import Mathlib.Data.List.Nodup

/-!
# Tables as lists of entries

Each key of a table is listed once, so a key that is there splits the list of
entries in two, and the operations on it act at the place of the split.
-/

namespace FragmentCache
namespace Table

variable {κ α : Type}

/-- The entries that satisfy a test. -/
def filter (table : Table κ α) (test : κ × α → Bool) : Table κ α where
  entries := table.entries.filter test
  nodup := table.nodup.sublist (List.filter_sublist.map Prod.fst)

/-- All entries but the first ones. -/
def drop (table : Table κ α) (count : Nat) : Table κ α where
  entries := table.entries.drop count
  nodup := table.nodup.sublist ((List.drop_sublist count _).map Prod.fst)

/-- A key that splits the list of entries stands in neither part. -/
theorem notMem_of_split
    {table : Table κ α}
    {front back : List (κ × α)}
    {key : κ}
    {value : α}
    (split : table.entries = front ++ (key, value) :: back) :
    key ∉ (front ++ back).map Prod.fst := by
  have nodup := table.nodup
  rw [split, List.map_append, List.map_cons, List.nodup_middle, List.nodup_cons,
    ← List.map_append] at nodup
  exact nodup.1

variable [DecidableEq κ]

/-! ## Lists with a key for every element -/

section Keyed

variable {β : Type} {keyOf : β → κ}

theorem filter_ne_of_notMem
    {list : List β}
    {key : κ}
    (unlisted : key ∉ list.map keyOf) :
    list.filter (fun element => !decide (keyOf element = key)) = list := by
  rw [List.filter_eq_self]
  intro element listed
  have differ : keyOf element ≠ key := fun equal =>
    unlisted (equal ▸ List.mem_map_of_mem listed)
  simp [differ]

/-- Leaving out the key of an element leaves out that element only. -/
theorem filter_ne_of_split
    {front back : List β}
    {element : β}
    (distinct : ((front ++ element :: back).map keyOf).Nodup) :
    (front ++ element :: back).filter
      (fun other => !decide (keyOf other = keyOf element)) = front ++ back := by
  rw [List.map_append, List.map_cons, List.nodup_middle, List.nodup_cons,
    ← List.map_append] at distinct
  rw [List.filter_append, List.filter_cons_of_neg (by simp), ← List.filter_append]
  exact filter_ne_of_notMem distinct.1

end Keyed

/-! ## Looking up, putting and erasing -/

/-- A value is found under a key exactly if the table lists it there. -/
theorem find?_eq_some_iff
    {table : Table κ α}
    {key : κ}
    {value : α} :
    table.find? key = some value ↔ (key, value) ∈ table.entries := by
  obtain ⟨entries, nodup⟩ := table
  change entries.lookup key = some value ↔ (key, value) ∈ entries
  induction entries with
  | nil => simp
  | cons entry rest inductionHypothesis =>
      obtain ⟨name, old⟩ := entry
      rw [List.map_cons, List.nodup_cons] at nodup
      rw [lookup_entry, List.mem_cons, Prod.mk.injEq]
      by_cases same : key = name
      · subst same
        have unlisted : (key, value) ∉ rest := by
          intro listed
          have keyListed := List.mem_map_of_mem (f := Prod.fst) listed
          exact nodup.1 keyListed
        simp [unlisted, eq_comm]
      · simp [same, inductionHypothesis nodup.2]

/-- Nothing is found under a key exactly if no entry has it. -/
theorem find?_eq_none_iff {table : Table κ α} {key : κ} :
    table.find? key = none ↔ key ∉ table.keys := by
  rw [mem_keys_iff, Option.not_isSome_iff_eq_none]

theorem contains_eq_false_iff {table : Table κ α} {key : κ} :
    table.contains key = false ↔ key ∉ table.keys := by
  rw [mem_keys_iff, Bool.not_eq_true]
  rfl

/-- The list of entries around a key that is there. -/
theorem exists_split
    {table : Table κ α}
    {key : κ}
    {value : α}
    (found : table.find? key = some value) :
    ∃ front back, table.entries = front ++ (key, value) :: back :=
  List.append_of_mem (find?_eq_some_iff.1 found)

section Split

variable
  {table : Table κ α}
  {front back : List (κ × α)}
  {key : κ}
  {value : α}
  (split : table.entries = front ++ (key, value) :: back)

include split

/-- The value between a front and a back is found under its key. -/
theorem find?_of_split : table.find? key = some value := by
  rw [find?_eq_some_iff, split]
  simp

/-- Erasing a key leaves the front and the back. -/
theorem erase_of_split : (table.erase key).entries = front ++ back := by
  have nodup := table.nodup
  change table.entries.filter _ = _
  rw [split] at nodup ⊢
  exact filter_ne_of_split nodup

/-- A value put under a key that is present takes the place of the old one. -/
theorem put_of_split (new : α) :
    (table.put key new).entries = front ++ (key, new) :: back := by
  have unlisted := notMem_of_split split
  change putEntry key new table.entries = _
  rw [split]
  clear split
  induction front with
  | nil => simp [putEntry]
  | cons entry rest inductionHypothesis =>
      obtain ⟨name, old⟩ := entry
      rw [List.cons_append, List.map_cons, List.mem_cons, not_or] at unlisted
      have differ : ¬name = key := fun equal => unlisted.1 equal.symm
      rw [List.cons_append, putEntry, if_neg differ, inductionHypothesis unlisted.2]
      rfl

end Split

/-- Putting a key that is there again keeps the number of entries. -/
theorem size_put_of_present
    {table : Table κ α}
    {key : κ}
    {value : α}
    (found : table.find? key = some value)
    (new : α) :
    (table.put key new).size = table.size := by
  obtain ⟨front, back, split⟩ := exists_split found
  rw [size, size, put_of_split split, split, List.length_append, List.length_append,
    List.length_cons, List.length_cons]

/-- Erasing a key that is there takes out one entry. -/
theorem size_erase_of_present
    {table : Table κ α}
    {key : κ}
    {value : α}
    (found : table.find? key = some value) :
    (table.erase key).size + 1 = table.size := by
  obtain ⟨front, back, split⟩ := exists_split found
  rw [size, size, erase_of_split split, split, List.length_append, List.length_append,
    List.length_cons, Nat.add_assoc]

section Absent

variable
  {table : Table κ α}
  {key : κ}
  (absent : table.find? key = none)

include absent

/-- A value put under a new key comes last. -/
theorem put_of_absent (new : α) :
    (table.put key new).entries = table.entries ++ [(key, new)] := by
  have unlisted : key ∉ table.entries.map Prod.fst := find?_eq_none_iff.1 absent
  change putEntry key new table.entries = _
  generalize table.entries = entries at unlisted
  induction entries with
  | nil => rfl
  | cons entry rest inductionHypothesis =>
      obtain ⟨name, old⟩ := entry
      rw [List.map_cons, List.mem_cons, not_or] at unlisted
      have differ : ¬name = key := fun equal => unlisted.1 equal.symm
      rw [putEntry, if_neg differ, inductionHypothesis unlisted.2]
      rfl

theorem erase_of_absent : (table.erase key).entries = table.entries :=
  filter_ne_of_notMem (find?_eq_none_iff.1 absent)

end Absent

@[simp] theorem find?_erase_self (table : Table κ α) (key : κ) :
    (table.erase key).find? key = none := by
  rw [find?_erase, if_pos rfl]

/-- Whatever a key had before, putting a value lists it once more beside the entries
of the other keys. -/
theorem put_perm (table : Table κ α) (key : κ) (new : α) :
    (table.put key new).entries.Perm ((key, new) :: (table.erase key).entries) := by
  cases found : table.find? key with
  | none =>
      rw [put_of_absent found, erase_of_absent found]
      exact List.perm_append_singleton _ _
  | some value =>
      obtain ⟨front, back, split⟩ := exists_split found
      rw [put_of_split split, erase_of_split split]
      exact List.perm_middle

end Table
end FragmentCache
