import FragmentCache.Proofs.Pool.Refinement
import Mathlib.Data.Nat.PSub

/-!
# Debits of a pool

A pool counts down the bytes of its documents and the nodes of its order of touches
whenever an entry leaves or gets a new document.  Here the same operations give
nothing when there is less than they take off; on an arranged pool they always give
the pool of the plain operation.
-/

namespace FragmentCache

/-! ## The order of touches -/

namespace Recency

variable {α : Type}

/-- Remove the node at a position, if the size can be counted down. -/
def remove? (list : Recency α) (position : Position) : Option (Recency α × Option α) :=
  match list.node? position with
  | none => some (list, none)
  | some node => do
    let freed := { list with slots := list.slots.setIfInBounds position none }
    let unlinked := freed.unlink node.previous node.next
    let size ← unlinked.size.psub 1
    return ({ unlinked with free := position :: unlinked.free, size }, some node.value)

/-- Remove the node touched longest ago, if the size can be counted down. -/
def popFront? (list : Recency α) : Option (Recency α × Option α) :=
  match list.head with
  | some position => list.remove? position
  | none => some (list, none)

/-- Removing a position that is in the list takes nothing below zero. -/
theorem Represents.remove?_eq
    {list : Recency α}
    {front back : List (Position × α)}
    {position : Position}
    {value : α}
    (represents : list.Represents (front ++ (position, value) :: back)) :
    list.remove? position = some (list.remove position) := by
  have found := represents.spells.node?_eq
  let freed : Recency α := { list with slots := list.slots.setIfInBounds position none }
  have size : (freed.unlink (lastOf none front) (firstOf none back)).size = list.size :=
    (sameSlots_unlink freed _ _).size
  have enough : 1 ≤ list.size := by
    rw [represents.size, List.length_append, List.length_cons]
    omega
  rw [Recency.remove?, Recency.remove, found]
  dsimp only
  rw [size, Nat.psub_eq_sub enough]
  rfl

theorem Represents.popFront?_eq
    {list : Recency α}
    {sequence : List (Position × α)}
    (represents : list.Represents sequence) :
    list.popFront? = some list.popFront := by
  rw [Recency.popFront?, Recency.popFront, represents.spells.head]
  cases sequence with
  | nil => rfl
  | cons node rest =>
      have atFront : list.Represents ([] ++ (node.1, node.2) :: rest) := represents
      exact atFront.remove?_eq

end Recency

/-! ## Operations on a pool -/

namespace Pool

/-- Remove a key, if the totals cover what leaves. -/
def remove? (pool : Pool) (key : String) : Option (Pool × Bool) :=
  match pool.entries.find? key with
  | none => some (pool, false)
  | some entry => do
    let (order, _) ← pool.order.remove? entry.position
    let usedMemory ← pool.usedMemory.psub entry.bytes
    return ({ pool with entries := pool.entries.erase key, order, usedMemory }, true)

/-- Load the document under a key, if the totals cover an entry that expired.  No other
entry leaves. -/
def load? (pool : Pool) (key : String) (now : Timestamp) :
    Option (Except Crash (Pool × Answer)) :=
  if pool.holdsExpired now key then do
    let (removed, _) ← pool.remove? key
    return .ok ({ removed with expired := removed.expired + 1 }, .expired)
  else some (pool.load key now)

/-- Remove the expired ones of the given keys, if the totals cover them. -/
def sweep? (pool : Pool) (now : Timestamp) (keys : List String) : Option Pool := do
  let expired := keys.filter (pool.holdsExpired now)
  let swept ← expired.foldlM (fun pool key => (pool.remove? key).map Prod.fst) pool
  return { swept with expired := swept.expired + expired.length }

/-- Remove the entry touched longest ago, if the totals cover it. -/
def evictOldest? (pool : Pool) : Option Pool := do
  match ← pool.order.popFront? with
  | (order, none) => return { pool with order }
  | (order, some oldest) =>
    match pool.entries.find? oldest with
    | none => return { pool with order }
    | some entry =>
      let usedMemory ← pool.usedMemory.psub entry.bytes
      return { pool with
        entries := pool.entries.erase oldest
        order
        usedMemory
        evicted := pool.evicted + 1 }

/-- Remove the entries touched longest ago until there is room for one more, if the
totals cover them. -/
def evict? : Nat → Pool → Option Pool
  | 0, pool => some pool
  | fuel + 1, pool =>
    if pool.size < pool.capacity ∨ pool.order.head = none then some pool
    else pool.evictOldest?.bind (evict? fuel)

/-- Make room for one more entry, if the totals cover what leaves. -/
def shrinkAlong? (keys : List String) (pool : Pool) (now : Timestamp) : Option Pool := do
  let swept ← pool.sweep? now keys
  if swept.capacity = 0 then return swept else evict? swept.order.size swept

/-- Replace the entry under a key that is there, if the total covers the old one. -/
def overwrite? (pool : Pool) (key : String) (old : Entry) (cached : Cached)
    (now : Timestamp) : Option Pool := do
  let rest ← pool.usedMemory.psub old.bytes
  return { pool.overwrite key old cached now with usedMemory := rest + cached.document.size }

/-- Save a document under a key, if the totals cover what is replaced or leaves. -/
def saveAlong? (keys : List String) (pool : Pool) (key : String) (cached : Cached)
    (now : Timestamp) : Option Pool :=
  match pool.entries.find? key with
  | some entry => pool.overwrite? key entry cached now
  | none => do
    let roomy ←
      if 0 < pool.capacity ∧ pool.capacity ≤ pool.size then pool.shrinkAlong? keys now
      else some pool
    return roomy.insert key cached now

/-- Carry out one operation, if the totals cover what it takes off. -/
def perform? (pool : Pool) (visit : Visit) : Operation → Option (Pool × Reply)
  | .load key now => do
    match ← pool.load? key now with
    | .ok (pool, answer) => return (pool, .answered answer)
    | .error crash => return (pool, .crashed crash)
  | .save key cached now => do
    return (← pool.saveAlong? (visit.order pool.entries.keys) key cached now, .done)
  | .remove key => do
    let (pool, found) ← pool.remove? key
    return (pool, .removed found)
  | .shrink now => do
    return (← pool.shrinkAlong? (visit.order pool.entries.keys) now, .done)
  | .clear => some (pool.clear, .done)

/-- Carry out operations one after the other, as long as the totals cover them. -/
def run? (pool : Pool) (visits : Nat → Visit) :
    List Operation → Option (Pool × List Observation)
  | [] => some (pool, [])
  | operation :: rest => do
    let outcome ← pool.perform? (visits 0) operation
    let (last, observations) ← outcome.1.run? (fun turn => visits (turn + 1)) rest
    return (last, observe outcome :: observations)

/-! ## The totals cover what leaves -/

variable {pool : Pool} {places : List Place}

theorem Arranged.remove?_eq
    (arranged : pool.Arranged places)
    (key : String) :
    pool.remove? key = some (pool.remove key) := by
  rw [Pool.remove?, Pool.remove]
  cases found : pool.entries.find? key with
  | none => rfl
  | some entry =>
      obtain ⟨front, place, back, rfl, rfl, rfl⟩ := arranged.exists_split found
      have order := arranged.order
      rw [List.map_append, List.map_cons] at order
      have removed : pool.order.remove? place.entry.2.position =
          some (pool.order.remove place.entry.2.position) :=
        order.remove?_eq
      have covered : pool.usedMemory.psub place.entry.2.bytes =
          some (pool.usedMemory - place.entry.2.bytes) :=
        Nat.psub_eq_sub arranged.bytes_le
      simp only [removed, covered]
      rfl

/-- A load from an arranged pool takes nothing below zero. -/
theorem Arranged.load?_eq
    (arranged : pool.Arranged places)
    (key : String)
    (now : Timestamp) :
    pool.load? key now = some (pool.load key now) := by
  rw [Pool.load?, arranged.remove?_eq]
  cases found : pool.entries.find? key with
  | none => rw [Pool.holdsExpired, found]; rfl
  | some entry =>
      rw [holdsExpired_of_found found]
      cases expired : entry.tag.expiredAt now with
      | false => rfl
      | true => rw [load_of_expired found expired]; rfl

/-- Removing some keys one after the other. -/
theorem Arranged.removeAll?_eq
    (arranged : pool.Arranged places)
    (keys : List String) :
    keys.foldlM (fun pool key => (pool.remove? key).map Prod.fst) pool =
      some (keys.foldl (fun pool key => (pool.remove key).1) pool) := by
  induction keys generalizing pool places with
  | nil => rfl
  | cons key rest inductionHypothesis =>
      rw [List.foldlM_cons, arranged.remove?_eq]
      exact inductionHypothesis (arranged.remove key)

/-- Sweeping an arranged pool takes nothing below zero. -/
theorem Arranged.sweep?_eq
    (arranged : pool.Arranged places)
    (now : Timestamp)
    (keys : List String) :
    pool.sweep? now keys = some (pool.sweep now keys) := by
  rw [Pool.sweep?, arranged.removeAll?_eq]
  rfl

theorem Arranged.evictOldest?_eq
    {place : Place}
    {rest : List Place}
    (arranged : pool.Arranged (place :: rest)) :
    pool.evictOldest? = some pool.evictOldest := by
  have found := arranged.find?_of_mem List.mem_cons_self
  have atFront : pool.Arranged ([] ++ place :: rest) := arranged
  have order : pool.order.Represents ((place.position, place.key) :: rest.map Place.node) :=
    arranged.order
  have popped : pool.order.popFront = (pool.order.popFront.1, some place.key) :=
    Prod.ext rfl order.popFront.1
  have covered : pool.usedMemory.psub place.entry.2.bytes =
      some (pool.usedMemory - place.entry.2.bytes) :=
    Nat.psub_eq_sub atFront.bytes_le
  rw [Pool.evictOldest?, Pool.evictOldest, order.popFront?_eq, popped]
  change (match pool.entries.find? place.key with | none => _ | some entry => _) = some _
  dsimp only
  rw [found]
  simp only [covered]
  rfl

/-- Evictions from an arranged pool take nothing below zero. -/
theorem Arranged.evict?_eq
    (arranged : pool.Arranged places)
    (fuel : Nat) :
    Pool.evict? fuel pool = some (Pool.evict fuel pool) := by
  induction fuel generalizing pool places with
  | zero => rfl
  | succ fuel inductionHypothesis =>
      rw [Pool.evict?, Pool.evict]
      by_cases done : pool.size < pool.capacity ∨ pool.order.head = none
      · rw [if_pos done, if_pos done]
      · rw [if_neg done, if_neg done]
        cases places with
        | nil => exact absurd (Or.inr arranged.order.spells.head) done
        | cons place rest =>
            rw [arranged.evictOldest?_eq]
            exact inductionHypothesis arranged.evictOldest.1

theorem Arranged.shrinkAlong?_eq
    (arranged : pool.Arranged places)
    {keys : List String}
    (visited : keys.Perm pool.entries.keys)
    (now : Timestamp) :
    pool.shrinkAlong? keys now = some (pool.shrinkAlong keys now) := by
  obtain ⟨swept, -⟩ := arranged.sweep now visited
  rw [Pool.shrinkAlong?, Pool.shrinkAlong, arranged.sweep?_eq]
  change (if (pool.sweep now keys).capacity = 0 then some _ else _) = some _
  split
  · rfl
  · exact swept.evict?_eq _

theorem Arranged.overwrite?_eq
    (arranged : pool.Arranged places)
    {key : String}
    {entry : Entry}
    (found : pool.entries.find? key = some entry)
    (cached : Cached)
    (now : Timestamp) :
    pool.overwrite? key entry cached now = some (pool.overwrite key entry cached now) := by
  obtain ⟨front, place, back, rfl, rfl, rfl⟩ := arranged.exists_split found
  have covered : pool.usedMemory.psub place.entry.2.bytes =
      some (pool.usedMemory - place.entry.2.bytes) :=
    Nat.psub_eq_sub arranged.bytes_le
  rw [Pool.overwrite?, covered]
  rfl

/-- A save into an arranged pool takes nothing below zero. -/
theorem Arranged.saveAlong?_eq
    (arranged : pool.Arranged places)
    {keys : List String}
    (visited : keys.Perm pool.entries.keys)
    (key : String)
    (cached : Cached)
    (now : Timestamp) :
    pool.saveAlong? keys key cached now = some (pool.saveAlong keys key cached now) := by
  rw [Pool.saveAlong?, Pool.saveAlong]
  cases found : pool.entries.find? key with
  | some entry => exact arranged.overwrite?_eq found cached now
  | none =>
      dsimp only
      rw [arranged.shrinkAlong?_eq visited]
      split <;> rfl

/-- On an arranged pool every operation takes off no more than there is. -/
theorem Arranged.perform?_eq
    (arranged : pool.Arranged places)
    (visit : Visit)
    (operation : Operation) :
    pool.perform? visit operation = some (pool.perform visit operation) := by
  have visited := visit.perm pool.entries.keys
  cases operation with
  | load key now =>
      rw [Pool.perform?, Pool.perform, arranged.load?_eq]
      cases pool.load key now <;> rfl
  | save key cached now =>
      rw [Pool.perform?, arranged.saveAlong?_eq visited]
      rfl
  | remove key =>
      rw [Pool.perform?, arranged.remove?_eq]
      rfl
  | shrink now =>
      rw [Pool.perform?, arranged.shrinkAlong?_eq visited]
      rfl
  | clear => rfl

/-- A run takes off no more than there is, as long as the positions suffice. -/
theorem StandsFor.run?_eq
    {shelf : Shelf}
    (stands : pool.StandsFor shelf)
    (visits : Nat → Visit)
    (operations : List Operation)
    (fits : ∀ observation ∈ (pool.run visits operations).2,
      observation.size ≤ Recency.positionCount) :
    pool.run? visits operations = some (pool.run visits operations) := by
  induction operations generalizing pool shelf visits with
  | nil => rfl
  | cons operation rest inductionHypothesis =>
      obtain ⟨places, arranged, -⟩ := stands.arranged
      obtain ⟨next, -⟩ := stands.perform (visits 0) operation (fits _ List.mem_cons_self)
      have later := inductionHypothesis next (fun turn => visits (turn + 1))
        fun observation listed => fits observation (List.mem_cons_of_mem _ listed)
      rw [Pool.run?, arranged.perform?_eq]
      change Option.bind (Pool.run? _ _ rest) _ = _
      rw [later]
      rfl

end Pool
end FragmentCache
