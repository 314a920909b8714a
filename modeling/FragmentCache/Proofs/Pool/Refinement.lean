import FragmentCache.Proofs.Pool.Arrangement
import FragmentCache.Proofs.Pool.Branches
import FragmentCache.Proofs.Pool.Run

/-!
# Pools stand for shelves

A pool stands for a shelf when some arrangement of the pool lists the items of the
shelf.  Every operation keeps it so and gets the same reply from both, so a run of
a pool cannot be told from the run of the empty shelf.
-/

namespace FragmentCache
namespace Pool

open FragmentCache.Shelf (Item)

/-- The pool holds the items of the shelf in the same order of touches. -/
structure StandsFor (pool : Pool) (shelf : Shelf) : Prop where
  arranged : ∃ places, pool.Arranged places ∧ shelf.items.entries = places.map Place.keyed
  capacity : pool.capacity = shelf.capacity
  evicted : pool.evicted = shelf.evicted
  expired : pool.expired = shelf.expired

/-- An empty pool stands for an empty shelf. -/
theorem standsFor_empty (capacity : Nat) :
    ({ capacity } : Pool).StandsFor { capacity } :=
  ⟨⟨[], arranged_empty capacity, rfl⟩, rfl, rfl, rfl⟩

variable {pool : Pool} {shelf : Shelf} {places : List Place}

theorem StandsFor.size (stands : pool.StandsFor shelf) : pool.size = shelf.size := by
  obtain ⟨places, arranged, items⟩ := stands.arranged
  change _ = shelf.items.entries.length
  rw [arranged.size, items, List.length_map]

/-- A pool reports the usage of the shelf it stands for. -/
theorem StandsFor.usage (stands : pool.StandsFor shelf) : pool.usage = shelf.usage := by
  obtain ⟨places, arranged, items⟩ := stands.arranged
  have usedMemory : pool.usedMemory = shelf.usedMemory := by
    rw [arranged.usedMemory, Shelf.usedMemory, Table.values, items, List.map_map, List.map_map]
    rfl
  rw [Pool.usage, Shelf.usage, stands.size, usedMemory, stands.evicted, stands.expired]

/-! ## Looking up a key -/

/-- The shelf splits at a key where the arrangement does. -/
theorem items_split
    {front back : List Place}
    {place : Place}
    (items : shelf.items.entries = (front ++ place :: back).map Place.keyed) :
    shelf.items.entries =
      front.map Place.keyed ++ (place.key, place.item) :: back.map Place.keyed := by
  rw [items, List.map_append, List.map_cons]
  rfl

theorem Arranged.shelf_absent
    (arranged : pool.Arranged places)
    (items : shelf.items.entries = places.map Place.keyed)
    {key : String}
    (absent : pool.entries.find? key = none) :
    shelf.items.find? key = none := by
  rw [Table.find?_eq_none_iff, Table.keys, items, List.map_map]
  exact arranged.notMem_of_absent absent

/-! ## Operations -/

/-- A pool and a shelf after an operation: the pool stands for the shelf, and the
replies are the same. -/
def Agree (left : Pool × Reply) (right : Shelf × Reply) : Prop :=
  left.1.StandsFor right.1 ∧ left.2 = right.2

/-- A pool and its shelf load alike. -/
theorem StandsFor.perform_load
    (stands : pool.StandsFor shelf)
    (visit : Visit)
    (key : String)
    (now : Timestamp) :
    Agree (pool.perform visit (.load key now)) (shelf.perform (.load key now)) := by
  obtain ⟨places, arranged, items⟩ := stands.arranged
  cases found : pool.entries.find? key with
  | none =>
      have absent := arranged.shelf_absent items found
      simp only [Pool.perform, Shelf.perform, load_of_absent found, Shelf.load, absent]
      exact ⟨stands, rfl⟩
  | some entry =>
      obtain ⟨front, place, back, rfl, rfl, rfl⟩ := arranged.exists_split found
      have split := items_split items
      have shelved := Table.find?_of_split split
      have sameExpiry : place.entry.2.tag.expiredAt now = place.item.expiredAt now := rfl
      cases expired : place.item.expiredAt now with
      | true =>
          simp only [Pool.perform, Shelf.perform, load_of_expired found expired, Shelf.load,
            shelved, expired, if_true]
          refine ⟨⟨⟨front ++ back, ?_, ?_⟩, ?_, ?_, ?_⟩, rfl⟩
          · have removed := arranged.remove place.key
            rw [Table.filter_ne_of_split arranged.distinct] at removed
            exact ⟨removed.order, removed.entries, removed.usedMemory⟩
          · rw [List.map_append]
            exact Table.erase_of_split split
          · exact (capacity_remove _ _).trans stands.capacity
          · exact (evicted_remove _ _).trans stands.evicted
          · exact congrArg Nat.succ ((expired_remove _ _).trans stands.expired)
      | false =>
          have sameDue : place.entry.2.dueAt now = place.item.dueAt now := rfl
          simp only [Pool.perform, Shelf.perform, load_of_not_expired found expired, Shelf.load,
            shelved, expired, Bool.false_eq_true, if_false, sameDue]
          cases place.item.dueAt now with
          | error crash => exact ⟨stands, rfl⟩
          | ok due =>
              cases due with
              | true =>
                  refine ⟨⟨⟨_, arranged.replace { place.item with prefetchMarked := true } rfl,
                    ?_⟩, stands.capacity, stands.evicted, stands.expired⟩, rfl⟩
                  rw [List.map_append, List.map_cons]
                  exact Table.put_of_split split _
              | false =>
                  refine ⟨⟨⟨_, arranged.touch, ?_⟩, stands.capacity, stands.evicted,
                    stands.expired⟩, rfl⟩
                  simp only [List.map_append, List.map_cons, List.map_nil]
                  change (shelf.putLast place.key place.item).items.entries = _
                  rw [Shelf.entries_putLast, Table.erase_of_split split]
                  rfl

/-- A pool and its shelf remove alike. -/
theorem StandsFor.perform_remove
    (stands : pool.StandsFor shelf)
    (visit : Visit)
    (key : String) :
    Agree (pool.perform visit (.remove key)) (shelf.perform (.remove key)) := by
  obtain ⟨places, arranged, items⟩ := stands.arranged
  have removed := arranged.remove key
  refine ⟨⟨⟨_, removed, ?_⟩, ?_, ?_, ?_⟩, ?_⟩
  · change shelf.items.entries.filter _ = _
    rw [items, List.filter_map]
    rfl
  · exact (capacity_remove _ _).trans stands.capacity
  · exact (evicted_remove _ _).trans stands.evicted
  · exact (expired_remove _ _).trans stands.expired
  · change Reply.removed (pool.remove key).2 = Reply.removed (shelf.items.contains key)
    unfold Pool.remove
    cases found : pool.entries.find? key with
    | none => rw [Table.contains, arranged.shelf_absent items found]; rfl
    | some entry =>
        obtain ⟨front, place, back, rfl, rfl, rfl⟩ := arranged.exists_split found
        rw [Table.contains, Table.find?_of_split (items_split items)]
        rfl

/-- Making room keeps the two together, whatever the order of the visit. -/
theorem StandsFor.shrinkAlong
    (stands : pool.StandsFor shelf)
    {keys : List String}
    (visited : keys.Perm pool.entries.keys)
    (now : Timestamp) :
    (pool.shrinkAlong keys now).StandsFor (shelf.shrink now) := by
  obtain ⟨places, arranged, items⟩ := stands.arranged
  obtain ⟨swept, expired, evicted, capacity⟩ := arranged.sweep now visited
  have kept : shelf.items.entries.filter (fun entry => !entry.2.expiredAt now) =
      (places.filter fun place => !place.item.expiredAt now).map Place.keyed := by
    rw [items, List.filter_map]
    rfl
  have sweptStands : (pool.sweep now keys).StandsFor (shelf.dropExpired now) := by
    refine ⟨⟨_, swept, kept⟩, capacity.trans stands.capacity, evicted.trans stands.evicted, ?_⟩
    have parts := List.length_eq_length_filter_add (l := places) fun place =>
      place.item.expiredAt now
    change _ = shelf.expired + (shelf.items.entries.length -
      (shelf.items.entries.filter fun entry => !entry.2.expiredAt now).length)
    rw [expired, stands.expired, kept, items, List.length_map, List.length_map]
    omega
  unfold Pool.shrinkAlong Shelf.shrink
  dsimp only
  rw [sweptStands.capacity]
  by_cases unbounded : (shelf.dropExpired now).capacity = 0
  · rw [if_pos unbounded, if_pos unbounded]
    exact sweptStands
  · rw [if_neg unbounded, if_neg unbounded]
    have bounded : 0 < (pool.sweep now keys).capacity := by
      rw [sweptStands.capacity]
      omega
    obtain ⟨evictedArranged, evictedCount, expiredCount, sameCapacity⟩ :=
      swept.evict bounded (Nat.le_of_eq swept.orderSize.symm)
    have surplus : (places.filter fun place => !place.item.expiredAt now).length + 1 -
        (pool.sweep now keys).capacity =
          (shelf.dropExpired now).size + 1 - (shelf.dropExpired now).capacity := by
      rw [← swept.size, sweptStands.size, sweptStands.capacity]
    rw [surplus] at evictedArranged evictedCount
    refine ⟨⟨_, evictedArranged, ?_⟩, ?_, ?_, ?_⟩
    · rw [List.map_drop, ← kept]
      rfl
    · exact sameCapacity.trans sweptStands.capacity
    · exact evictedCount.trans (congrArg (· + _) sweptStands.evicted)
    · exact expiredCount.trans sweptStands.expired

/-- A new key joins both at the end. -/
theorem StandsFor.insert
    (stands : pool.StandsFor shelf)
    {key : String}
    (absent : pool.entries.find? key = none)
    (fits : pool.size < Recency.positionCount)
    (cached : Cached)
    (now : Timestamp) :
    (pool.insert key cached now).StandsFor
      (shelf.putLast key { cached, storedTime := now }) := by
  obtain ⟨places, arranged, items⟩ := stands.arranged
  obtain ⟨position, inserted⟩ := arranged.insert absent fits cached now
  have shelfAbsent := arranged.shelf_absent items absent
  refine ⟨⟨_, inserted, ?_⟩, stands.capacity, stands.evicted, stands.expired⟩
  rw [Shelf.entries_putLast, Table.erase_of_absent shelfAbsent, items, List.map_append]
  rfl

/-- A key that is there moves to the end of both with its new document. -/
theorem StandsFor.overwrite
    (stands : pool.StandsFor shelf)
    {key : String}
    {entry : Entry}
    (found : pool.entries.find? key = some entry)
    (cached : Cached)
    (now : Timestamp) :
    (pool.overwrite key entry cached now).StandsFor
      (shelf.putLast key { cached, storedTime := now }) := by
  obtain ⟨places, arranged, items⟩ := stands.arranged
  obtain ⟨front, place, back, rfl, rfl, rfl⟩ := arranged.exists_split found
  refine ⟨⟨_, arranged.overwrite cached now, ?_⟩, stands.capacity, stands.evicted,
    stands.expired⟩
  simp only [List.map_append, List.map_cons, List.map_nil]
  rw [Shelf.entries_putLast, Table.erase_of_split (items_split items)]
  rfl

theorem size_insert
    {key : String}
    (absent : pool.entries.find? key = none)
    (cached : Cached)
    (now : Timestamp) :
    (pool.insert key cached now).size = pool.size + 1 := by
  change (pool.entries.put key _).entries.length = pool.entries.entries.length + 1
  rw [Table.put_of_absent absent, List.length_append]
  rfl

/-- A key is absent from a pool exactly if it is absent from its shelf. -/
theorem StandsFor.find?_eq_none_iff
    (stands : pool.StandsFor shelf)
    {key : String} :
    pool.entries.find? key = none ↔ shelf.items.find? key = none := by
  obtain ⟨places, arranged, items⟩ := stands.arranged
  rw [Table.find?_eq_none_iff, Table.find?_eq_none_iff, arranged.keys.mem_iff, Table.keys, items,
    List.map_map]
  rfl

/-- A pool whose positions suffice saves as its shelf does. -/
theorem StandsFor.perform_save
    (stands : pool.StandsFor shelf)
    (visit : Visit)
    (key : String)
    (cached : Cached)
    (now : Timestamp)
    (fits : (pool.perform visit (.save key cached now)).1.size ≤ Recency.positionCount) :
    Agree (pool.perform visit (.save key cached now))
      (shelf.perform (.save key cached now)) := by
  refine ⟨?_, rfl⟩
  change (pool.saveAlong (visit.order pool.entries.keys) key cached now).size ≤ _ at fits
  change (pool.saveAlong (visit.order pool.entries.keys) key cached now).StandsFor
    (shelf.save key cached now)
  cases found : pool.entries.find? key with
  | some entry =>
      have present : (shelf.items.find? key).isSome := by
        rw [Option.isSome_iff_ne_none, ne_eq, ← stands.find?_eq_none_iff, found]
        exact Option.some_ne_none entry
      rw [saveAlong_of_present found, Shelf.save_of_room (Or.inl present)]
      exact stands.overwrite found cached now
  | none =>
      have absent := stands.find?_eq_none_iff.1 found
      have sameRoom : (0 < pool.capacity ∧ pool.capacity ≤ pool.size) ↔ shelf.IsFull := by
        rw [stands.capacity, stands.size, Shelf.IsFull]
      by_cases full : shelf.IsFull
      · have shrunk := stands.shrinkAlong (visit.perm _) now
        have still := shrunk.find?_eq_none_iff.2 (Shelf.shrink_of_absent absent now)
        rw [saveAlong_of_full found (sameRoom.2 full)] at fits ⊢
        rw [Shelf.save_of_full absent full]
        rw [size_insert still] at fits
        exact shrunk.insert still fits cached now
      · rw [saveAlong_of_room found (mt sameRoom.1 full)] at fits ⊢
        rw [Shelf.save_of_room (Or.inr full)]
        rw [size_insert found] at fits
        exact stands.insert found fits cached now

/-- Every operation keeps a pool standing for its shelf, with the same reply, as long
as the positions suffice. -/
theorem StandsFor.perform
    (stands : pool.StandsFor shelf)
    (visit : Visit)
    (operation : Operation)
    (fits : (pool.perform visit operation).1.size ≤ Recency.positionCount) :
    Agree (pool.perform visit operation) (shelf.perform operation) := by
  cases operation with
  | load key now => exact stands.perform_load visit key now
  | save key cached now => exact stands.perform_save visit key cached now fits
  | remove key => exact stands.perform_remove visit key
  | shrink now => exact ⟨stands.shrinkAlong (visit.perm _) now, rfl⟩
  | clear =>
      exact ⟨⟨⟨[], ⟨Recency.represents_empty, .refl _, rfl⟩, rfl⟩, stands.capacity,
        stands.evicted, stands.expired⟩, rfl⟩

/-! ## Runs -/

/-- A run of a pool and the run of the shelf it stands for end together, and show the
same on the way. -/
theorem StandsFor.run
    (stands : pool.StandsFor shelf)
    (visits : Nat → Visit)
    (operations : List Operation)
    (fits : ∀ observation ∈ (pool.run visits operations).2,
      observation.size ≤ Recency.positionCount) :
    (pool.run visits operations).1.StandsFor (shelf.run operations).1 ∧
      (pool.run visits operations).2 = (shelf.run operations).2 := by
  induction operations generalizing pool shelf visits with
  | nil => exact ⟨stands, rfl⟩
  | cons operation rest inductionHypothesis =>
      obtain ⟨next, sameReply⟩ :=
        stands.perform (visits 0) operation (fits _ List.mem_cons_self)
      obtain ⟨last, sameRest⟩ := inductionHypothesis next (fun turn => visits (turn + 1))
        fun observation listed => fits observation (List.mem_cons_of_mem _ listed)
      refine ⟨last, ?_⟩
      rw [Pool.run_cons, Shelf.run_cons, Pool.observe, Shelf.observe, sameReply, next.size,
        next.usage, sameRest]

/-- A pool cannot be told from a plain list of its documents in the order of their
last touches: every reply, every size and every gauge of a run from the empty pool
is that of the list, whatever order the keys are visited in to make room. -/
theorem run_eq_shelf_run
    (capacity : Nat)
    (visits : Nat → Visit)
    (operations : List Operation)
    (fits : ∀ observation ∈ (({ capacity } : Pool).run visits operations).2,
      observation.size ≤ Recency.positionCount) :
    (({ capacity } : Pool).run visits operations).2 =
      (({ capacity } : Shelf).run operations).2 :=
  ((standsFor_empty capacity).run visits operations fits).2

/-- A pool of two entries that visits its keys backwards. -/
theorem run_eq_shelf_run_two :
    (∀ observation ∈ (({ capacity := 2 } : Pool).run (fun _ => .reversed) sampleOperations).2,
      observation.size ≤ Recency.positionCount) ∧
    (({ capacity := 2 } : Pool).run (fun _ => .reversed) sampleOperations).2 =
      (({ capacity := 2 } : Shelf).run sampleOperations).2 := by
  have fits : ∀ observation ∈
      (({ capacity := 2 } : Pool).run (fun _ => .reversed) sampleOperations).2,
      observation.size ≤ Recency.positionCount := by
    decide +kernel
  exact ⟨fits, run_eq_shelf_run 2 (fun _ => .reversed) sampleOperations fits⟩

end Pool
end FragmentCache
