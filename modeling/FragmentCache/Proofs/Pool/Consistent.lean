import FragmentCache.Proofs.Pool.Debits
import FragmentCache.Proofs.Pool.Inclusion

/-!
# Consistent pools

The entries of a pool and its order of touches name each other: an entry knows its
position, and the node there holds the key of the entry.  No operation breaks this
bijection or the sum of bytes, so the totals always cover what leaves.
-/

namespace FragmentCache
namespace Pool

/-- The parts of a pool agree. -/
structure Consistent (pool : Pool) : Prop where
  /-- The node at the position of an entry holds the key of the entry. -/
  held : ∀ key entry, pool.entries.find? key = some entry →
    pool.order.get? entry.position = some key
  /-- Different entries have different positions. -/
  apart : ∀ key other entry otherEntry,
    pool.entries.find? key = some entry → pool.entries.find? other = some otherEntry →
      entry.position = otherEntry.position → key = other
  /-- Every node belongs to an entry. -/
  owned : ∀ position key, pool.order.get? position = some key →
    ∃ entry, pool.entries.find? key = some entry ∧ entry.position = position
  /-- The links run through the node of every entry once, and through no other. -/
  listed : pool.order.items.Perm
    (pool.entries.entries.map fun (key, entry) => (entry.position, key))
  sameSize : pool.order.size = pool.size
  bytes : ∀ key entry, pool.entries.find? key = some entry →
    entry.bytes = entry.document.size
  usedMemory : pool.usedMemory = (pool.entries.values.map Entry.bytes).sum
  /-- A bounded pool holds no more entries than its capacity. -/
  bounded : 0 < pool.capacity → pool.size ≤ pool.capacity

variable {pool : Pool} {shelf : Shelf} {places : List Place}

/-- An entry is that of a place, which the order of touches lists. -/
theorem Arranged.exists_place
    (arranged : pool.Arranged places)
    {key : String}
    {entry : Entry}
    (found : pool.entries.find? key = some entry) :
    ∃ place ∈ places, place.key = key ∧ place.entry.2 = entry := by
  obtain ⟨front, place, back, rfl, sameKey, sameEntry⟩ := arranged.exists_split found
  exact ⟨place, by simp, sameKey, sameEntry⟩

/-- An arranged pool within its capacity is consistent. -/
theorem Arranged.consistent
    (arranged : pool.Arranged places)
    (bounded : 0 < pool.capacity → pool.size ≤ pool.capacity) :
    pool.Consistent where
  held key entry found := by
    obtain ⟨place, listed, rfl, rfl⟩ := arranged.exists_place found
    exact arranged.order.get?_of_mem (List.mem_map_of_mem (f := Place.node) listed)
  apart key other entry otherEntry found otherFound same := by
    obtain ⟨place, listed, rfl, rfl⟩ := arranged.exists_place found
    obtain ⟨otherPlace, otherListed, rfl, rfl⟩ := arranged.exists_place otherFound
    have held := arranged.order.get?_of_mem (List.mem_map_of_mem (f := Place.node) listed)
    have otherHeld :=
      arranged.order.get?_of_mem (List.mem_map_of_mem (f := Place.node) otherListed)
    change place.position = otherPlace.position at same
    rw [same, otherHeld] at held
    exact (Option.some.inj held).symm
  owned position key held := by
    obtain ⟨place, listed, node⟩ := List.mem_map.1 (arranged.order.mem_of_get? held)
    obtain ⟨rfl, rfl⟩ := Prod.mk.inj node
    exact ⟨place.entry.2, arranged.find?_of_mem listed, rfl⟩
  listed := by
    rw [arranged.order.spells.items_eq]
    have nodes := arranged.entries.map fun entry : String × Entry => (entry.2.position, entry.1)
    rw [List.map_map] at nodes
    exact nodes.symm
  sameSize := arranged.orderSize.trans arranged.size.symm
  bytes key entry found := by
    obtain ⟨place, -, -, rfl⟩ := arranged.exists_place found
    rfl
  usedMemory := by
    have bytes := arranged.entries.map fun entry : String × Entry => entry.2.bytes
    rw [List.map_map] at bytes
    rw [arranged.usedMemory, Table.values, List.map_map]
    exact bytes.symm.sum_nat
  bounded := bounded

/-! ## Bounded pools -/

/-- A pool that stands for a shelf within its capacity is within it too. -/
theorem StandsFor.size_le
    (stands : pool.StandsFor shelf)
    (within : shelf.Within)
    (bounded : 0 < pool.capacity) :
    pool.size ≤ pool.capacity := by
  rw [stands.capacity] at bounded ⊢
  rw [stands.size]
  exact within.resolve_left (Nat.ne_of_gt bounded)

/-- A bounded pool that saves a document makes room first. -/
theorem StandsFor.size_saveAlong_le
    (stands : pool.StandsFor shelf)
    (within : shelf.Within)
    (bounded : 0 < pool.capacity)
    {keys : List String}
    (visited : keys.Perm pool.entries.keys)
    (key : String)
    (cached : Cached)
    (now : Timestamp) :
    (pool.saveAlong keys key cached now).size ≤ pool.capacity := by
  have fits := stands.size_le within bounded
  cases found : pool.entries.find? key with
  | some entry =>
      rw [saveAlong_of_present found]
      change (pool.entries.put key _).size ≤ _
      rw [Table.size_put_of_present found]
      exact fits
  | none =>
      by_cases full : 0 < pool.capacity ∧ pool.capacity ≤ pool.size
      · have shrunk := stands.shrinkAlong visited now
        have absent := Shelf.shrink_of_absent (stands.find?_eq_none_iff.1 found) now
        rw [saveAlong_of_full found full, size_insert (shrunk.find?_eq_none_iff.2 absent),
          shrunk.size, stands.capacity]
        exact Shelf.size_shrink_lt (stands.capacity ▸ bounded) now
      · rw [saveAlong_of_room found full, size_insert found]
        omega

/-- The positions suffice for a bounded pool whose capacity they suffice for. -/
theorem StandsFor.fits_perform
    (stands : pool.StandsFor shelf)
    (within : shelf.Within)
    (bounded : 0 < pool.capacity)
    (enough : pool.capacity ≤ Recency.positionCount)
    (visit : Visit)
    (operation : Operation) :
    (pool.perform visit operation).1.size ≤ Recency.positionCount := by
  have kept
      (next : Agree (pool.perform visit operation) (shelf.perform operation)) :
      (pool.perform visit operation).1.size ≤ Recency.positionCount := by
    have capacity : (pool.perform visit operation).1.capacity = pool.capacity := by
      rw [next.1.capacity, Shelf.capacity_perform, stands.capacity]
    have size := next.1.size_le (within.perform operation) (capacity.symm ▸ bounded)
    omega
  cases operation with
  | load key now => exact kept (stands.perform_load visit key now)
  | save key cached now =>
      exact Nat.le_trans
        (stands.size_saveAlong_le within bounded (visit.perm _) key cached now) enough
  | remove key => exact kept (stands.perform_remove visit key)
  | shrink now => exact kept ⟨stands.shrinkAlong (visit.perm _) now, rfl⟩
  | clear => exact Nat.zero_le _

/-! ## Runs -/

/-- A bounded pool has positions enough in any run if it has them for its capacity. -/
theorem StandsFor.fits_run
    (stands : pool.StandsFor shelf)
    (within : shelf.Within)
    (bounded : 0 < pool.capacity)
    (enough : pool.capacity ≤ Recency.positionCount)
    (visits : Nat → Visit)
    (operations : List Operation) :
    ∀ observation ∈ (pool.run visits operations).2,
      observation.size ≤ Recency.positionCount := by
  induction operations generalizing pool shelf visits with
  | nil => exact fun _ unlisted => absurd unlisted List.not_mem_nil
  | cons operation rest inductionHypothesis =>
      have fits := stands.fits_perform within bounded enough (visits 0) operation
      obtain ⟨next, -⟩ := stands.perform (visits 0) operation fits
      have capacity : (pool.perform (visits 0) operation).1.capacity = pool.capacity := by
        rw [next.capacity, Shelf.capacity_perform, stands.capacity]
      rw [run_cons, List.forall_mem_cons]
      exact ⟨fits, inductionHypothesis next (within.perform operation) (capacity.symm ▸ bounded)
        (capacity.symm ▸ enough) fun turn => visits (turn + 1)⟩

/-- A bounded pool ends a run within its capacity. -/
theorem size_run_le
    {capacity : Nat}
    (bounded : 0 < capacity)
    (visits : Nat → Visit)
    (operations : List Operation)
    (fits : ∀ observation ∈ (({ capacity } : Pool).run visits operations).2,
      observation.size ≤ Recency.positionCount) :
    (({ capacity } : Pool).run visits operations).1.size ≤ capacity := by
  obtain ⟨last, -⟩ := (standsFor_empty capacity).run visits operations fits
  have within : (({ capacity } : Shelf).run operations).1.Within :=
    Shelf.Within.run (Or.inr (Nat.zero_le _)) operations
  rw [Shelf.Within, Shelf.capacity_run] at within
  rw [last.size]
  exact within.resolve_left (Nat.ne_of_gt bounded)

/-- However a pool is used, its entries and its order of touches name each other one
to one, its total is the exact sum of the bytes of its documents, and the pool keeps
to its capacity; no total was ever asked for more than it had. -/
theorem consistent_after_run
    (capacity : Nat)
    (visits : Nat → Visit)
    (operations : List Operation)
    (fits : ∀ observation ∈ (({ capacity } : Pool).run visits operations).2,
      observation.size ≤ Recency.positionCount) :
    ({ capacity } : Pool).run? visits operations =
        some (({ capacity } : Pool).run visits operations) ∧
      (({ capacity } : Pool).run visits operations).1.Consistent ∧
      (({ capacity } : Pool).run visits operations).1.capacity = capacity := by
  have stands := standsFor_empty capacity
  obtain ⟨last, -⟩ := stands.run visits operations fits
  obtain ⟨places, arranged, -⟩ := last.arranged
  have sameCapacity : (({ capacity } : Pool).run visits operations).1.capacity = capacity :=
    last.capacity.trans (Shelf.capacity_run _ operations)
  refine ⟨stands.run?_eq visits operations fits, arranged.consistent fun bounded => ?_,
    sameCapacity⟩
  rw [sameCapacity] at bounded ⊢
  exact size_run_le bounded visits operations fits

/-- A pool of two entries that visits its keys backwards. -/
theorem consistent_after_run_two :
    (∀ observation ∈ (({ capacity := 2 } : Pool).run (fun _ => .reversed) sampleOperations).2,
      observation.size ≤ Recency.positionCount) ∧
    ({ capacity := 2 } : Pool).run? (fun _ => .reversed) sampleOperations =
        some (({ capacity := 2 } : Pool).run (fun _ => .reversed) sampleOperations) ∧
      (({ capacity := 2 } : Pool).run (fun _ => .reversed) sampleOperations).1.Consistent ∧
      (({ capacity := 2 } : Pool).run (fun _ => .reversed) sampleOperations).1.capacity = 2 := by
  have fits : ∀ observation ∈
      (({ capacity := 2 } : Pool).run (fun _ => .reversed) sampleOperations).2,
      observation.size ≤ Recency.positionCount := by
    decide +kernel
  exact ⟨fits, consistent_after_run 2 (fun _ => .reversed) sampleOperations fits⟩

end Pool
end FragmentCache
