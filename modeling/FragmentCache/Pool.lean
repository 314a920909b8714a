import FragmentCache.Recency
import FragmentCache.Table
import FragmentCache.Tag.Prefetch

/-!
# Pools

A pool holds tagged documents under their keys and knows the order in which they
were last touched.  When a bounded pool is full, expired entries leave first and
then those touched longest ago.
-/

namespace FragmentCache

namespace Pool

/-- What a pool holds under a key. -/
structure Entry where
  tag : Tag
  document : Document
  /-- Where the key stands in the order of touches. -/
  position : Recency.Position
  /-- When the document was stored. -/
  storedTime : Timestamp
  /-- Whether a caller was told to refresh the document. -/
  prefetchMarked : Bool
  /-- Bytes counted for the document. -/
  bytes : Nat

/-- Whether a caller has to be told now to refresh the document; only one is. -/
def Entry.dueAt (entry : Entry) (now : Timestamp) : Except Crash Bool :=
  if entry.prefetchMarked then .ok false
  else entry.tag.prefetchDueAt entry.storedTime now

/-- Answer to a load. -/
inductive Answer where
  | success (cached : Cached)
  | notFound
  /-- The entry was expired and is gone. -/
  | expired
  /-- The entry is due for a refresh and stays. -/
  | needPrefetch
  deriving DecidableEq

/-- The document of a successful load. -/
def Answer.hit? : Answer → Option Cached
  | success cached => some cached
  | _ => none

end Pool

/-- A set of entries with their order of touches. -/
structure Pool where
  /-- Largest number of entries; zero for any number. -/
  capacity : Nat
  entries : Table String Pool.Entry := .empty
  /-- Keys in the order of touches. -/
  order : Recency String := .empty
  /-- Bytes of all documents. -/
  usedMemory : Nat := 0
  /-- Entries that left to make room. -/
  evicted : Nat := 0
  /-- Entries that left because they had expired. -/
  expired : Nat := 0

namespace Pool

/-- Number of entries. -/
def size (pool : Pool) : Nat := pool.entries.size

/-- Whether a pool has no entries. -/
def isEmpty (pool : Pool) : Bool := pool.size == 0

/-- Remove a key, and tell whether it was there. -/
def remove (pool : Pool) (key : String) : Pool × Bool :=
  match pool.entries.find? key with
  | none => (pool, false)
  | some entry =>
    ({ pool with
        entries := pool.entries.erase key
        order := (pool.order.remove entry.position).1
        usedMemory := pool.usedMemory - entry.bytes }, true)

/-- Load the document under a key at `now`. -/
def load (pool : Pool) (key : String) (now : Timestamp) : Except Crash (Pool × Answer) := do
  match pool.entries.find? key with
  | none => return (pool, .notFound)
  | some entry =>
    if entry.tag.expiredAt now then
      let removed := (pool.remove key).1
      return ({ removed with expired := removed.expired + 1 }, .expired)
    if ← entry.dueAt now then
      let marked := { entry with prefetchMarked := true }
      return ({ pool with entries := pool.entries.put key marked }, .needPrefetch)
    return ({ pool with order := pool.order.moveToBack entry.position },
      .success ⟨entry.tag, entry.document⟩)

/-- Whether the entry under a key is expired at `now`. -/
def holdsExpired (pool : Pool) (now : Timestamp) (key : String) : Bool :=
  (pool.entries.find? key).any fun entry => entry.tag.expiredAt now

/-- Remove the expired ones of the given keys. -/
def sweep (pool : Pool) (now : Timestamp) (keys : List String) : Pool :=
  let expired := keys.filter (pool.holdsExpired now)
  let swept := expired.foldl (fun pool key => (pool.remove key).1) pool
  { swept with expired := swept.expired + expired.length }

/-- Remove the entry touched longest ago. -/
def evictOldest (pool : Pool) : Pool :=
  match pool.order.popFront with
  | (order, none) => { pool with order }
  | (order, some oldest) =>
    match pool.entries.find? oldest with
    | none => { pool with order }
    | some entry =>
      { pool with
        entries := pool.entries.erase oldest
        order
        usedMemory := pool.usedMemory - entry.bytes
        evicted := pool.evicted + 1 }

/-- Remove the entries touched longest ago until there is room for one more.  Each
round removes one, so the number of entries is enough fuel. -/
def evict : Nat → Pool → Pool
  | 0, pool => pool
  | fuel + 1, pool =>
    if pool.size < pool.capacity ∨ pool.order.head = none then pool
    else evict fuel pool.evictOldest

/-- Make room for one more entry.  The keys are visited in the given order while
expired entries are removed. -/
def shrinkAlong (keys : List String) (pool : Pool) (now : Timestamp) : Pool :=
  let swept := pool.sweep now keys
  if swept.capacity = 0 then swept else evict swept.order.size swept

/-- Make room for one more entry. -/
def shrink (pool : Pool) (now : Timestamp) : Pool :=
  pool.shrinkAlong pool.entries.keys now

/-- Replace the entry under a key that is there. -/
def overwrite (pool : Pool) (key : String) (old : Entry) (cached : Cached)
    (now : Timestamp) : Pool :=
  let entry := { old with
    tag := cached.tag, document := cached.document, bytes := cached.document.size
    storedTime := now, prefetchMarked := false }
  { pool with
    entries := pool.entries.put key entry
    order := pool.order.moveToBack old.position
    usedMemory := pool.usedMemory - old.bytes + cached.document.size }

/-- Add an entry under a key that is not there. -/
def insert (pool : Pool) (key : String) (cached : Cached) (now : Timestamp) : Pool :=
  let (order, position) := pool.order.pushBack key
  let entry : Entry := {
    tag := cached.tag, document := cached.document, position, storedTime := now
    prefetchMarked := false, bytes := cached.document.size }
  { pool with
    entries := pool.entries.put key entry
    order
    usedMemory := pool.usedMemory + cached.document.size }

/-- Save a document under a key at `now`; a full pool is shrunk along the given
keys. -/
def saveAlong (keys : List String) (pool : Pool) (key : String) (cached : Cached)
    (now : Timestamp) : Pool :=
  match pool.entries.find? key with
  | some entry => pool.overwrite key entry cached now
  | none =>
    let roomy :=
      if 0 < pool.capacity ∧ pool.capacity ≤ pool.size then pool.shrinkAlong keys now
      else pool
    roomy.insert key cached now

/-- Save a document under a key at `now`. -/
def save (pool : Pool) (key : String) (cached : Cached) (now : Timestamp) : Pool :=
  pool.saveAlong pool.entries.keys key cached now

/-- Remove all entries; the counters stay. -/
def clear (pool : Pool) : Pool :=
  { pool with entries := .empty, order := .empty, usedMemory := 0 }

/-- Gauges of a pool. -/
def usage (pool : Pool) : Usage :=
  { entries := pool.size, usedMemory := pool.usedMemory
    evicted := pool.evicted, expired := pool.expired }

end Pool
end FragmentCache
