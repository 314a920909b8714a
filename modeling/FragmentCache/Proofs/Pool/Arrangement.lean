import FragmentCache.Proofs.Pool.Shelf
import FragmentCache.Proofs.Recency.Operations

/-!
# Arrangements of pools

An arrangement lists the places of a pool in the order of touches: position, key
and item.  The order of touches, the entries and the running total of bytes all
follow from it, and every operation on the pool rearranges it.
-/

namespace FragmentCache
namespace Pool

open FragmentCache.Shelf (Item)

/-- A key with its item and its position in the order of touches. -/
structure Place where
  position : Recency.Position
  key : String
  item : Item

namespace Place

/-- What the order of touches holds for a place. -/
def node (place : Place) : Recency.Position × String := (place.position, place.key)

/-- What the entries hold for a place. -/
def entry (place : Place) : String × Entry :=
  (place.key, {
    tag := place.item.cached.tag, document := place.item.cached.document
    position := place.position, storedTime := place.item.storedTime
    prefetchMarked := place.item.prefetchMarked
    bytes := place.item.cached.document.size })

/-- What a shelf holds for a place. -/
def keyed (place : Place) : String × Item := (place.key, place.item)

/-- Bytes of the document of a place. -/
def bytes (place : Place) : Nat := place.item.cached.document.size

end Place

/-- The three parts of a pool agree with a list of places. -/
structure Arranged (pool : Pool) (places : List Place) : Prop where
  order : pool.order.Represents (places.map Place.node)
  entries : pool.entries.entries.Perm (places.map Place.entry)
  usedMemory : pool.usedMemory = (places.map Place.bytes).sum

theorem arranged_empty (capacity : Nat) : ({ capacity } : Pool).Arranged [] where
  order := Recency.represents_empty
  entries := .refl _
  usedMemory := rfl

section

variable
  {pool : Pool}
  {places front back : List Place}
  {place : Place}

theorem Arranged.size (arranged : pool.Arranged places) : pool.size = places.length := by
  have length := arranged.entries.length_eq
  rw [List.length_map] at length
  exact length

theorem Arranged.orderSize (arranged : pool.Arranged places) :
    pool.order.size = places.length := by
  rw [arranged.order.size, List.length_map]

/-- The keys of an arrangement are those of the entries. -/
theorem Arranged.keys (arranged : pool.Arranged places) :
    pool.entries.keys.Perm (places.map Place.key) := by
  have keys := arranged.entries.map Prod.fst
  rwa [List.map_map] at keys

theorem Arranged.distinct (arranged : pool.Arranged places) :
    (places.map Place.key).Nodup :=
  arranged.keys.nodup_iff.1 pool.entries.nodup

/-- A place holds what the entries have under its key. -/
theorem Arranged.find?_of_mem
    (arranged : pool.Arranged places)
    (listed : place ∈ places) :
    pool.entries.find? place.key = some place.entry.2 := by
  rw [Table.find?_eq_some_iff, arranged.entries.mem_iff]
  exact List.mem_map_of_mem listed

/-- An entry stands at a place of the arrangement. -/
theorem Arranged.exists_split
    (arranged : pool.Arranged places)
    {key : String}
    {entry : Entry}
    (found : pool.entries.find? key = some entry) :
    ∃ front place back,
      places = front ++ place :: back ∧ place.key = key ∧ place.entry.2 = entry := by
  rw [Table.find?_eq_some_iff, arranged.entries.mem_iff, List.mem_map] at found
  obtain ⟨place, listed, same⟩ := found
  obtain ⟨front, back, split⟩ := List.append_of_mem listed
  exact ⟨front, place, back, split, congrArg Prod.fst same, congrArg Prod.snd same⟩

theorem Arranged.notMem_of_absent
    (arranged : pool.Arranged places)
    {key : String}
    (absent : pool.entries.find? key = none) :
    key ∉ places.map Place.key := by
  rw [Table.find?_eq_none_iff] at absent
  rwa [← arranged.keys.mem_iff]

/-- Leaving out a key leaves out its place. -/
theorem Arranged.erase_perm
    (arranged : pool.Arranged (front ++ place :: back)) :
    (pool.entries.erase place.key).entries.Perm ((front ++ back).map Place.entry) := by
  have distinct : ((front ++ place :: back).map (Prod.fst ∘ Place.entry)).Nodup :=
    arranged.distinct
  rw [← List.map_map, List.map_append, List.map_cons] at distinct
  have filtered := arranged.entries.filter fun entry => !decide (entry.1 = place.entry.1)
  rw [List.map_append, List.map_cons, Table.filter_ne_of_split distinct,
    ← List.map_append] at filtered
  exact filtered

/-! ## Single changes -/

/-- Taking a place out of the entries and the order. -/
theorem Arranged.takeOut
    (arranged : pool.Arranged (front ++ place :: back))
    (evicted expired : Nat) :
    Arranged
      { pool with
        entries := pool.entries.erase place.key
        order := (pool.order.remove place.position).1
        usedMemory := pool.usedMemory - place.bytes
        evicted
        expired }
      (front ++ back) where
  order := by
    have order := arranged.order
    rw [List.map_append, List.map_cons] at order
    rw [List.map_append]
    exact order.remove.2
  entries := arranged.erase_perm
  usedMemory := by
    change pool.usedMemory - place.bytes = _
    rw [arranged.usedMemory]
    simp only [List.map_append, List.map_cons, List.sum_append, List.sum_cons]
    omega

/-- No entry counts for more bytes than all of them together. -/
theorem Arranged.bytes_le (arranged : pool.Arranged (front ++ place :: back)) :
    place.bytes ≤ pool.usedMemory := by
  rw [arranged.usedMemory]
  simp only [List.map_append, List.map_cons, List.sum_append, List.sum_cons]
  omega

/-- Another item under a key, at the place the key has. -/
theorem Arranged.replace
    (arranged : pool.Arranged (front ++ place :: back))
    (item : Item)
    {usedMemory : Nat}
    (total : usedMemory + place.bytes = pool.usedMemory + item.cached.document.size) :
    Arranged
      { pool with
        entries := pool.entries.put place.key { place with item }.entry.2
        usedMemory }
      (front ++ { place with item } :: back) where
  order := by
    have order := arranged.order
    rw [List.map_append, List.map_cons] at order ⊢
    exact order
  entries := by
    refine (Table.put_perm _ _ _).trans ?_
    rw [List.map_append, List.map_cons]
    refine List.Perm.trans ?_ List.perm_middle.symm
    rw [← List.map_append]
    exact arranged.erase_perm.cons _
  usedMemory := by
    rw [arranged.usedMemory] at total
    simp only [List.map_append, List.map_cons, List.sum_append, List.sum_cons] at total ⊢
    change usedMemory = _ + (item.cached.document.size + _)
    omega

/-- A touched place goes to the end. -/
theorem Arranged.touch
    (arranged : pool.Arranged (front ++ place :: back)) :
    Arranged
      { pool with order := pool.order.moveToBack place.position }
      (front ++ back ++ [place]) where
  order := by
    have order := arranged.order
    rw [List.map_append, List.map_cons] at order
    simp only [List.map_append, List.map_cons, List.map_nil]
    exact order.moveToBack
  entries := by
    refine arranged.entries.trans (List.Perm.map _ ?_)
    rw [List.append_assoc]
    exact (List.perm_append_singleton _ back).symm.append_left front
  usedMemory := by
    have usedMemory := arranged.usedMemory
    simp only [List.map_append, List.map_cons, List.map_nil, List.sum_append, List.sum_cons,
      List.sum_nil] at usedMemory ⊢
    rw [usedMemory]
    omega

/-! ## Operations -/

/-- An overwritten key goes to the end with its new item. -/
theorem Arranged.overwrite
    (arranged : pool.Arranged (front ++ place :: back))
    (cached : Cached)
    (now : Timestamp) :
    (pool.overwrite place.key place.entry.2 cached now).Arranged
      (front ++ back ++ [{ place with item := { cached, storedTime := now } }]) := by
  have bytes := arranged.bytes_le
  have total : pool.usedMemory - place.bytes + cached.document.size + place.bytes =
      pool.usedMemory + cached.document.size := by
    omega
  exact (arranged.replace { cached, storedTime := now } total).touch

/-- A new key goes to the end, at a new position. -/
theorem Arranged.insert
    (arranged : pool.Arranged places)
    {key : String}
    (absent : pool.entries.find? key = none)
    (fits : pool.size < Recency.positionCount)
    (cached : Cached)
    (now : Timestamp) :
    ∃ position, (pool.insert key cached now).Arranged
      (places ++ [{ position, key, item := { cached, storedTime := now } }]) := by
  have orderFits : pool.order.size < Recency.positionCount := by
    rw [arranged.orderSize, ← arranged.size]
    exact fits
  refine ⟨(pool.order.pushBack key).2, ?_, ?_, ?_⟩
  · rw [List.map_append]
    exact (arranged.order.pushBack orderFits key).2
  · change (pool.entries.put key _).entries.Perm _
    rw [Table.put_of_absent absent, List.map_append]
    exact arranged.entries.append_right _
  · change pool.usedMemory + cached.document.size = _
    rw [arranged.usedMemory, List.map_append, List.sum_append]
    simp [Place.bytes]

/-- Removing a key leaves out its place, if it has one. -/
theorem Arranged.remove
    (arranged : pool.Arranged places)
    (key : String) :
    (pool.remove key).1.Arranged (places.filter fun place => !decide (place.key = key)) := by
  unfold Pool.remove
  cases found : pool.entries.find? key with
  | none =>
      rw [Table.filter_ne_of_notMem (arranged.notMem_of_absent found)]
      exact arranged
  | some entry =>
      obtain ⟨front, place, back, rfl, rfl, rfl⟩ := arranged.exists_split found
      rw [Table.filter_ne_of_split arranged.distinct]
      exact arranged.takeOut pool.evicted pool.expired

/-- Removing some keys leaves out their places. -/
theorem Arranged.removeAll
    (arranged : pool.Arranged places)
    (keys : List String) :
    (keys.foldl (fun pool key => (pool.remove key).1) pool).Arranged
      (places.filter fun place => !decide (place.key ∈ keys)) := by
  induction keys generalizing pool places with
  | nil =>
      rw [List.filter_eq_self.2 (by simp)]
      exact arranged
  | cons key rest inductionHypothesis =>
      have removed := inductionHypothesis (arranged.remove key)
      rw [List.filter_filter] at removed
      refine Eq.mp (congrArg _ (List.filter_congr fun place _ => ?_)) removed
      simp [Bool.and_comm]

/-- Evicting takes out the first place. -/
theorem Arranged.evictOldest
    {rest : List Place}
    (arranged : pool.Arranged (place :: rest)) :
    pool.evictOldest.Arranged rest ∧
      pool.evictOldest.evicted = pool.evicted + 1 ∧
      pool.evictOldest.expired = pool.expired ∧
      pool.evictOldest.capacity = pool.capacity := by
  have found := arranged.find?_of_mem List.mem_cons_self
  have atFront : pool.Arranged ([] ++ place :: rest) := arranged
  have order : pool.order.Represents ([] ++ place.node :: rest.map Place.node) :=
    arranged.order
  have popped : pool.order.popFront =
      ((pool.order.remove place.position).1, some place.key) := by
    have head : pool.order.head = some place.position := order.spells.head
    rw [Recency.popFront, head]
    exact Prod.ext rfl order.remove.1
  unfold Pool.evictOldest
  rw [popped]
  dsimp only
  rw [found]
  exact ⟨atFront.takeOut (pool.evicted + 1) pool.expired, rfl, rfl, rfl⟩

/-- Evicting until there is room takes out the first places. -/
theorem Arranged.evict
    (arranged : pool.Arranged places)
    (bounded : 0 < pool.capacity)
    {fuel : Nat}
    (enough : places.length ≤ fuel) :
    (evict fuel pool).Arranged (places.drop (places.length + 1 - pool.capacity)) ∧
      (evict fuel pool).evicted = pool.evicted + (places.length + 1 - pool.capacity) ∧
      (evict fuel pool).expired = pool.expired ∧
      (evict fuel pool).capacity = pool.capacity := by
  induction fuel generalizing pool places with
  | zero =>
      have empty : places = [] := List.eq_nil_of_length_eq_zero (Nat.le_zero.1 enough)
      subst empty
      have surplus : 0 + 1 - pool.capacity = 0 := by omega
      simp only [List.length_nil, surplus]
      exact ⟨arranged, rfl, rfl, rfl⟩
  | succ fuel inductionHypothesis =>
      have size := arranged.size
      rw [Pool.evict]
      by_cases roomy : pool.size < pool.capacity
      · have surplus : places.length + 1 - pool.capacity = 0 := by omega
        rw [if_pos (Or.inl roomy), surplus]
        exact ⟨arranged, rfl, rfl, rfl⟩
      · have nonempty : places ≠ [] := by
          rintro rfl
          rw [List.length_nil] at size
          omega
        obtain ⟨place, rest, rfl⟩ := List.exists_cons_of_ne_nil nonempty
        have head : pool.order.head = some place.position := arranged.order.spells.head
        rw [if_neg (by simp [roomy, head])]
        rw [List.length_cons] at size enough
        obtain ⟨arrangedRest, evicted, expired, capacity⟩ := arranged.evictOldest
        have done := inductionHypothesis arrangedRest (capacity ▸ bounded)
          (Nat.le_of_succ_le_succ enough)
        rw [evicted, expired, capacity] at done
        have surplus : rest.length + 1 + 1 - pool.capacity =
            rest.length + 1 - pool.capacity + 1 := by
          omega
        rw [List.length_cons, surplus, List.drop_succ_cons]
        refine ⟨done.1, ?_, done.2.2⟩
        rw [done.2.1]
        omega

/-! ## Sweeping -/

@[simp] theorem capacity_remove (pool : Pool) (key : String) :
    (pool.remove key).1.capacity = pool.capacity := by
  unfold Pool.remove
  split <;> rfl

@[simp] theorem evicted_remove (pool : Pool) (key : String) :
    (pool.remove key).1.evicted = pool.evicted := by
  unfold Pool.remove
  split <;> rfl

@[simp] theorem expired_remove (pool : Pool) (key : String) :
    (pool.remove key).1.expired = pool.expired := by
  unfold Pool.remove
  split <;> rfl

/-- Removing keys leaves the capacity and the counters alone. -/
theorem counters_removeAll (pool : Pool) (keys : List String) :
    (keys.foldl (fun pool key => (pool.remove key).1) pool).capacity = pool.capacity ∧
      (keys.foldl (fun pool key => (pool.remove key).1) pool).evicted = pool.evicted ∧
      (keys.foldl (fun pool key => (pool.remove key).1) pool).expired = pool.expired := by
  induction keys generalizing pool with
  | nil => exact ⟨rfl, rfl, rfl⟩
  | cons key rest inductionHypothesis =>
      have removed := inductionHypothesis (pool.remove key).1
      simpa using removed

/-- A key that is found is expired as its tag says. -/
theorem holdsExpired_of_found
    {key : String}
    {entry : Entry}
    (found : pool.entries.find? key = some entry)
    (now : Timestamp) :
    pool.holdsExpired now key = entry.tag.expiredAt now := by
  rw [Pool.holdsExpired, found]
  rfl

/-- Whether a place holds an expired document is seen under its key. -/
theorem Arranged.holdsExpired
    (arranged : pool.Arranged places)
    (listed : place ∈ places)
    (now : Timestamp) :
    pool.holdsExpired now place.key = place.item.expiredAt now :=
  holdsExpired_of_found (arranged.find?_of_mem listed) now

/-- Sweeping leaves out the places with expired documents and counts them, whatever
the order of the keys. -/
theorem Arranged.sweep
    (arranged : pool.Arranged places)
    (now : Timestamp)
    {keys : List String}
    (visited : keys.Perm pool.entries.keys) :
    (pool.sweep now keys).Arranged
        (places.filter fun place => !place.item.expiredAt now) ∧
      (pool.sweep now keys).expired = pool.expired +
        (places.filter fun place => place.item.expiredAt now).length ∧
      (pool.sweep now keys).evicted = pool.evicted ∧
      (pool.sweep now keys).capacity = pool.capacity := by
  have visitedPlaces := visited.trans arranged.keys
  obtain ⟨capacity, evicted, expired⟩ :=
    counters_removeAll pool (keys.filter (pool.holdsExpired now))
  have kept : places.filter
      (fun place => !decide (place.key ∈ keys.filter (pool.holdsExpired now))) =
        places.filter fun place => !place.item.expiredAt now := by
    refine List.filter_congr fun place listed => ?_
    have visitedKey : place.key ∈ keys :=
      visitedPlaces.mem_iff.2 (List.mem_map_of_mem listed)
    simp [List.mem_filter, visitedKey, arranged.holdsExpired listed]
  have count : (keys.filter (pool.holdsExpired now)).length =
      (places.filter fun place => place.item.expiredAt now).length := by
    rw [(visitedPlaces.filter _).length_eq, List.filter_map, List.length_map]
    refine congrArg _ (List.filter_congr fun place listed => ?_)
    exact arranged.holdsExpired listed now
  have swept := arranged.removeAll (keys.filter (pool.holdsExpired now))
  rw [kept] at swept
  refine ⟨⟨swept.order, swept.entries, swept.usedMemory⟩, ?_, evicted, capacity⟩
  change Pool.expired _ + List.length _ = _
  rw [expired, count]

end

end Pool
end FragmentCache
