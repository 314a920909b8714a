import FragmentCache.Pool
import FragmentCache.Proofs.Table
import Mathlib.Algebra.Ring.Nat

/-!
# Shelves

A shelf is the plain list that a pool stands for: every key with its document, the
one touched longest ago first, beside two counters.  It has no positions, no links
and no running total of bytes.
-/

namespace FragmentCache

namespace Shelf

/-- What a shelf holds under a key. -/
structure Item where
  cached : Cached
  /-- When the document was stored. -/
  storedTime : Timestamp
  /-- Whether a caller was told to refresh the document. -/
  prefetchMarked : Bool := false
  deriving DecidableEq

namespace Item

/-- Whether the document is expired at `now`. -/
def expiredAt (item : Item) (now : Timestamp) : Bool := item.cached.tag.expiredAt now

/-- Whether a caller has to be told now to refresh the document. -/
def dueAt (item : Item) (now : Timestamp) : Except Crash Bool :=
  if item.prefetchMarked then .ok false
  else item.cached.tag.prefetchDueAt item.storedTime now

end Item
end Shelf

/-- Keys with their items in the order of touches, and two counters. -/
structure Shelf where
  /-- Largest number of items; zero for any number. -/
  capacity : Nat
  items : Table String Shelf.Item := .empty
  /-- Items that left to make room. -/
  evicted : Nat := 0
  /-- Items that left because they had expired. -/
  expired : Nat := 0

namespace Shelf

/-- Number of items. -/
def size (shelf : Shelf) : Nat := shelf.items.size

/-- Bytes of all documents. -/
def usedMemory (shelf : Shelf) : Nat :=
  (shelf.items.values.map fun item => item.cached.document.size).sum

/-- Gauges of a shelf. -/
def usage (shelf : Shelf) : Usage :=
  { entries := shelf.size, usedMemory := shelf.usedMemory
    evicted := shelf.evicted, expired := shelf.expired }

/-- Put an item at the end, in place of one that its key has. -/
def putLast (shelf : Shelf) (key : String) (item : Item) : Shelf :=
  { shelf with items := (shelf.items.erase key).put key item }

/-- Note that a caller was told to refresh the document under a key. -/
def mark (shelf : Shelf) (key : String) (item : Item) : Shelf :=
  { shelf with items := shelf.items.put key { item with prefetchMarked := true } }

/-- Take out an item that has expired. -/
def expire (shelf : Shelf) (key : String) : Shelf :=
  { shelf with items := shelf.items.erase key, expired := shelf.expired + 1 }

/-- Load the document under a key at `now`. -/
def load (shelf : Shelf) (key : String) (now : Timestamp) :
    Except Crash (Shelf × Pool.Answer) :=
  match shelf.items.find? key with
  | none => .ok (shelf, .notFound)
  | some item =>
    if item.expiredAt now then .ok (shelf.expire key, .expired)
    else (item.dueAt now).map fun
      | true => (shelf.mark key item, .needPrefetch)
      | false => (shelf.putLast key item, .success item.cached)

/-- Remove a key, and tell whether it was there. -/
def remove (shelf : Shelf) (key : String) : Shelf × Bool :=
  ({ shelf with items := shelf.items.erase key }, shelf.items.contains key)

/-- Drop the items that are expired at `now`. -/
def dropExpired (shelf : Shelf) (now : Timestamp) : Shelf :=
  let fresh := shelf.items.filter fun entry => !entry.2.expiredAt now
  { shelf with items := fresh, expired := shelf.expired + (shelf.size - fresh.size) }

/-- Drop the items touched longest ago until there is room for one more. -/
def makeRoom (shelf : Shelf) : Shelf :=
  let surplus := shelf.size + 1 - shelf.capacity
  { shelf with items := shelf.items.drop surplus, evicted := shelf.evicted + surplus }

/-- Drop the expired items, and then as many more as a bounded shelf has to. -/
def shrink (shelf : Shelf) (now : Timestamp) : Shelf :=
  let fresh := shelf.dropExpired now
  if fresh.capacity = 0 then fresh else fresh.makeRoom

/-- Whether a bounded shelf has no room for one more item. -/
def IsFull (shelf : Shelf) : Prop := 0 < shelf.capacity ∧ shelf.capacity ≤ shelf.size

instance (shelf : Shelf) : Decidable shelf.IsFull := inferInstanceAs (Decidable (_ ∧ _))

/-- The shelf with room for a key; a full shelf is shrunk for a new one. -/
def roomFor (shelf : Shelf) (key : String) (now : Timestamp) : Shelf :=
  if shelf.items.contains key = false ∧ shelf.IsFull then shelf.shrink now else shelf

/-- Save a document under a key at `now`. -/
def save (shelf : Shelf) (key : String) (cached : Cached) (now : Timestamp) : Shelf :=
  (shelf.roomFor key now).putLast key { cached, storedTime := now }

/-- Remove all items; the counters stay. -/
def clear (shelf : Shelf) : Shelf := { shelf with items := .empty }

variable {shelf : Shelf} {key : String}

/-- What is put last stands behind the items of the other keys. -/
theorem entries_putLast (shelf : Shelf) (key : String) (item : Item) :
    (shelf.putLast key item).items.entries =
      (shelf.items.erase key).entries ++ [(key, item)] :=
  Table.put_of_absent (Table.find?_erase_self _ _) item

/-- Saving under a new key on a full shelf makes room first. -/
theorem save_of_full
    (absent : shelf.items.find? key = none)
    (full : shelf.IsFull)
    (cached : Cached)
    (now : Timestamp) :
    shelf.save key cached now =
      (shelf.shrink now).putLast key { cached, storedTime := now } := by
  have uncontained : shelf.items.contains key = false := by
    rw [Table.contains_eq_false_iff, ← Table.find?_eq_none_iff]
    exact absent
  rw [save, roomFor, if_pos ⟨uncontained, full⟩]

/-- Saving without need of room puts the item last. -/
theorem save_of_room
    (roomy : (shelf.items.find? key).isSome ∨ ¬shelf.IsFull)
    (cached : Cached)
    (now : Timestamp) :
    shelf.save key cached now = shelf.putLast key { cached, storedTime := now } := by
  rw [save, roomFor, if_neg]
  rintro ⟨uncontained, full⟩
  rcases roomy with present | notFull
  · rw [Table.contains_eq_false_iff, Table.mem_keys_iff] at uncontained
    exact uncontained present
  · exact notFull full

/-- A key that is not there is not there after making room either. -/
theorem shrink_of_absent
    (absent : shelf.items.find? key = none)
    (now : Timestamp) :
    (shelf.shrink now).items.find? key = none := by
  rw [Table.find?_eq_none_iff, Table.keys] at absent ⊢
  have fewer : (shelf.shrink now).items.entries.Sublist shelf.items.entries := by
    unfold shrink
    dsimp only
    split
    · exact List.filter_sublist
    · exact (List.drop_sublist _ _).trans List.filter_sublist
  exact fun listed => absent ((fewer.map Prod.fst).subset listed)

end Shelf
end FragmentCache
