import FragmentCache.Proofs.Pool.Consistent
import FragmentCache.Proofs.Tier.Lasting
import Mathlib.Algebra.Order.BigOperators.Group.List
import Mathlib.Algebra.Order.Ring.Nat

/-!
# Sharded pools as pools side by side

An operation on a key reaches the pool of that key and no other; only clearing
reaches all of them.  So a run of a sharded pool is made of one run for every pool,
and how the operations of different pools take turns does not matter.
-/

namespace FragmentCache
namespace ShardedPool

open FragmentCache.Pool (Visit Reply Observation)

/-- What is asked of a sharded pool. -/
inductive Operation where
  | load (key : String) (now : Timestamp)
  | save (key : String) (cached : Cached) (now : Timestamp)
  | remove (key : String)
  | clear
  deriving DecidableEq

namespace Operation

/-- The key that an operation is about. -/
def key? : Operation → Option String
  | load key _ | save key _ _ | remove key => some key
  | clear => none

/-- What an operation asks of a pool that it reaches. -/
def toPool : Operation → Pool.Operation
  | load key now => .load key now
  | save key cached now => .save key cached now
  | remove key => .remove key
  | clear => .clear

end Operation

/-- Save a document under a key, visiting the keys of its pool in the given order. -/
def saveAlong (visit : Visit) (pool : ShardedPool) (key : String) (cached : Cached)
    (now : Timestamp) : ShardedPool :=
  pool.setShard key
    ((pool.shard key).saveAlong (visit.order (pool.shard key).entries.keys) key cached now)

/-- Visiting the keys of a shard in their listed order is what a save does. -/
theorem saveAlong_listed (pool : ShardedPool) (key : String) (cached : Cached)
    (now : Timestamp) :
    pool.saveAlong .listed key cached now = pool.save key cached now :=
  rfl

/-- Carry out one operation; each pool has its own order of visiting keys. -/
def perform (pool : ShardedPool) (visits : Nat → Visit) : Operation → ShardedPool × Reply
  | .load key now =>
    match pool.load key now with
    | .ok (pool, answer) => (pool, .answered answer)
    | .error crash => (pool, .crashed crash)
  | .save key cached now =>
    (pool.saveAlong (visits (pool.index key)) key cached now, .done)
  | .remove key => let (pool, found) := pool.remove key; (pool, .removed found)
  | .clear => (pool.clear, .done)

/-- Whether an operation reaches the pool with an index. -/
def reaches (pool : ShardedPool) (index : Nat) (operation : Operation) : Bool :=
  operation.key?.all fun key => pool.index key == index

/-- Carry out operations one after the other.  Each pool has a visit of its own for
every operation that reaches it. -/
def run (pool : ShardedPool) (visits : Nat → Nat → Visit) :
    List Operation → ShardedPool × List Reply
  | [] => (pool, [])
  | operation :: rest =>
    let outcome := pool.perform (fun index => visits index 0) operation
    let later index turn :=
      visits index (if pool.reaches index operation then turn + 1 else turn)
    let (last, replies) := outcome.1.run later rest
    (last, outcome.2 :: replies)

/-- What a list of operations asks of the pool with an index. -/
def share (pool : ShardedPool) (index : Nat) (operations : List Operation) :
    List Pool.Operation :=
  (operations.filter (pool.reaches index)).map Operation.toPool

/-- The replies to the operations that reach the pool with an index. -/
def repliesOf (pool : ShardedPool) (index : Nat) (operations : List Operation)
    (replies : List Reply) : List Reply :=
  ((operations.zip replies).filter fun turn => pool.reaches index turn.1).map Prod.snd

/-! ## One operation -/

variable {pool : ShardedPool} {operation : Operation}

theorem eq_of_shards
    {left right : ShardedPool}
    (shards : left.shards = right.shards)
    (checksum : left.checksum = right.checksum) :
    left = right := by
  obtain ⟨leftShards, nonempty, leftChecksum⟩ := left
  cases shards
  cases checksum
  rfl

theorem setShard_shard (pool : ShardedPool) (key : String) :
    pool.setShard key (pool.shard key) = pool :=
  eq_of_shards (List.set_getElem_self (pool.index_lt_count key)) rfl

/-- An operation on a key is carried out by the pool of that key. -/
theorem perform_of_key
    {key : String}
    (keyed : operation.key? = some key)
    (visits : Nat → Visit) :
    pool.perform visits operation =
      (pool.setShard key
        ((pool.shard key).perform (visits (pool.index key)) operation.toPool).1,
        ((pool.shard key).perform (visits (pool.index key)) operation.toPool).2) := by
  cases operation with
  | load _ now =>
      cases keyed
      simp only [perform, load, Operation.toPool, Pool.perform]
      cases (pool.shard key).load key now with
      | error crash => exact Prod.ext (setShard_shard pool key).symm rfl
      | ok outcome => rfl
  | save _ cached now =>
      cases keyed
      rfl
  | remove _ =>
      cases keyed
      rfl
  | clear => cases keyed

/-- The only operation without a key clears every shard. -/
theorem perform_of_keyless
    (pool : ShardedPool)
    (keyless : operation.key? = none)
    (visits : Nat → Visit) :
    pool.perform visits operation = (pool.clear, .done) ∧ operation.toPool = .clear := by
  cases operation with
  | clear => exact ⟨rfl, rfl⟩
  | load | save | remove => cases keyless

theorem reaches_of_key
    {key : String}
    (keyed : operation.key? = some key)
    (index : Nat) :
    pool.reaches index operation = decide (pool.index key = index) := by
  rw [reaches, keyed]
  rfl

theorem reaches_of_keyless
    (keyless : operation.key? = none)
    (index : Nat) :
    pool.reaches index operation = true := by
  rw [reaches, keyless]
  rfl

/-- An operation changes the pools that it reaches and no others. -/
theorem getElem?_perform
    (pool : ShardedPool)
    (visits : Nat → Visit)
    (operation : Operation)
    (index : Nat) :
    (pool.perform visits operation).1.shards[index]? =
      pool.shards[index]?.map fun shard =>
        if pool.reaches index operation then
          (shard.perform (visits index) operation.toPool).1
        else shard := by
  cases keyed : operation.key? with
  | none =>
      obtain ⟨cleared, asked⟩ := perform_of_keyless pool keyed visits
      rw [cleared, asked, reaches_of_keyless keyed]
      exact List.getElem?_map
  | some key =>
      rw [perform_of_key keyed, reaches_of_key keyed]
      change (pool.shards.set (pool.index key) _)[index]? = _
      by_cases same : pool.index key = index
      · subst same
        rw [List.getElem?_set_self (pool.index_lt_count key), getElem?_index]
        simp
      · rw [List.getElem?_set_ne same]
        simp [same]

/-- A pool that an operation reaches would give the same reply alone. -/
theorem reply_perform
    {index : Nat}
    {shard : Pool}
    (found : pool.shards[index]? = some shard)
    (reached : pool.reaches index operation = true)
    (visits : Nat → Visit) :
    (pool.perform visits operation).2 = (shard.perform (visits index) operation.toPool).2 := by
  cases keyed : operation.key? with
  | none =>
      obtain ⟨cleared, asked⟩ := perform_of_keyless pool keyed visits
      rw [cleared, asked]
      rfl
  | some key =>
      rw [reaches_of_key keyed, decide_eq_true_eq] at reached
      subst reached
      rw [getElem?_index] at found
      cases found
      rw [perform_of_key keyed]

theorem checksum_perform
    (pool : ShardedPool)
    (visits : Nat → Visit)
    (operation : Operation) :
    (pool.perform visits operation).1.checksum = pool.checksum := by
  cases keyed : operation.key? with
  | none => rw [(perform_of_keyless pool keyed visits).1]; rfl
  | some key => rw [perform_of_key keyed]; rfl

theorem count_perform
    (pool : ShardedPool)
    (visits : Nat → Visit)
    (operation : Operation) :
    (pool.perform visits operation).1.count = pool.count := by
  cases keyed : operation.key? with
  | none =>
      rw [(perform_of_keyless pool keyed visits).1]
      exact List.length_map _
  | some key =>
      rw [perform_of_key keyed]
      exact count_setShard pool key _

/-- Which pools an operation reaches stays the same. -/
theorem reaches_perform
    (pool : ShardedPool)
    (visits : Nat → Visit)
    (operation : Operation)
    (index : Nat) :
    (pool.perform visits operation).1.reaches index = pool.reaches index := by
  funext other
  simp only [reaches, ShardedPool.index, count_perform, checksum_perform]

/-! ## Runs -/

theorem share_cons_of_reached
    {index : Nat}
    (reached : pool.reaches index operation = true)
    (rest : List Operation) :
    pool.share index (operation :: rest) = operation.toPool :: pool.share index rest := by
  rw [share, List.filter_cons_of_pos reached]
  rfl

theorem share_cons_of_unreached
    {index : Nat}
    (unreached : pool.reaches index operation = false)
    (rest : List Operation) :
    pool.share index (operation :: rest) = pool.share index rest := by
  rw [share, List.filter_cons_of_neg (by rw [unreached]; exact Bool.false_ne_true)]
  rfl

/-- No operation changes which operations reach a shard. -/
theorem share_perform
    (pool : ShardedPool)
    (visits : Nat → Visit)
    (operation : Operation)
    (index : Nat)
    (rest : List Operation) :
    (pool.perform visits operation).1.share index rest = pool.share index rest := by
  rw [share, share, reaches_perform]

/-- In a run every pool ends where its own share of the operations takes it. -/
theorem getElem?_run
    (pool : ShardedPool)
    (visits : Nat → Nat → Visit)
    (operations : List Operation)
    (index : Nat) :
    (pool.run visits operations).1.shards[index]? =
      pool.shards[index]?.map fun shard =>
        (shard.run (visits index) (pool.share index operations)).1 := by
  induction operations generalizing pool visits with
  | nil => exact Option.map_id'.symm
  | cons operation rest inductionHypothesis =>
      rw [ShardedPool.run]
      dsimp only
      rw [inductionHypothesis, getElem?_perform, Option.map_map, share_perform]
      refine congrArg (Option.map · _) (funext fun shard => ?_)
      cases reached : pool.reaches index operation with
      | false => simp [share_cons_of_unreached reached]
      | true =>
          simp only [share_cons_of_reached reached]
          simp [Pool.run]

/-- A shard answers its share of a run as it does alone. -/
theorem replies_run
    {index : Nat}
    {shard : Pool}
    (found : pool.shards[index]? = some shard)
    (visits : Nat → Nat → Visit)
    (operations : List Operation) :
    pool.repliesOf index operations (pool.run visits operations).2 =
      (shard.run (visits index) (pool.share index operations)).2.map Observation.reply := by
  induction operations generalizing pool shard visits with
  | nil => rfl
  | cons operation rest inductionHypothesis =>
      have next := getElem?_perform pool (fun index => visits index 0) operation index
      rw [found, Option.map_some] at next
      have later := inductionHypothesis next fun index turn =>
        visits index (if pool.reaches index operation then turn + 1 else turn)
      rw [share_perform] at later
      rw [ShardedPool.run]
      dsimp only
      cases reached : pool.reaches index operation with
      | false =>
          rw [share_cons_of_unreached reached]
          simp only [reached, Bool.false_eq_true, if_false] at later
          rw [← later]
          simp [repliesOf, reached, reaches_perform]
      | true =>
          rw [share_cons_of_reached reached, Pool.run_cons, List.map_cons]
          simp only [reached, if_true] at later
          rw [← later]
          simp [repliesOf, reached, reaches_perform, Pool.observe,
            reply_perform found reached]

theorem checksum_run
    (pool : ShardedPool)
    (visits : Nat → Nat → Visit)
    (operations : List Operation) :
    (pool.run visits operations).1.checksum = pool.checksum := by
  induction operations generalizing pool visits with
  | nil => rfl
  | cons operation rest inductionHypothesis =>
      exact (inductionHypothesis _ _).trans (checksum_perform _ _ _)

/-! ## From new pools -/

/-- A new sharded pool with any checksum. -/
def start (count capacity : Nat) (checksum : String → Nat) : ShardedPool :=
  { new count capacity with checksum }

/-- A pool that starts with the checksum of texts is a new one. -/
theorem start_ofText (count capacity : Nat) :
    start count capacity Crc32.ofText = new count capacity :=
  rfl

/-- The run of one new pool that is asked only what the pool with an index is asked. -/
def lone (count capacity : Nat) (checksum : String → Nat) (visits : Nat → Nat → Visit)
    (operations : List Operation) (index : Nat) : Pool × List Observation :=
  ({ capacity } : Pool).run (visits index)
    ((start count capacity checksum).share index operations)

section

variable
  (count capacity : Nat)
  (checksum : String → Nat)
  (visits : Nat → Nat → Visit)
  (operations : List Operation)

theorem getElem?_start
    {index : Nat}
    (within : index < max count 1) :
    (start count capacity checksum).shards[index]? = some { capacity } := by
  change (List.replicate (max count 1) _)[index]? = _
  rw [List.getElem?_replicate, if_pos within]

/-- After a run every shard is as it is after its own share alone. -/
theorem shards_run :
    ((start count capacity checksum).run visits operations).1.shards =
      (List.range (max count 1)).map fun index =>
        (lone count capacity checksum visits operations index).1 := by
  refine List.ext_getElem? fun index => ?_
  rw [getElem?_run, List.getElem?_map]
  by_cases within : index < max count 1
  · rw [getElem?_start count capacity checksum within, List.getElem?_range within]
    rfl
  · have beyond : (start count capacity checksum).shards[index]? = none := by
      change (List.replicate (max count 1) _)[index]? = _
      rw [List.getElem?_replicate, if_neg within]
    have beyondRange : (List.range (max count 1))[index]? = none := by
      rw [List.getElem?_eq_none_iff, List.length_range]
      exact Nat.le_of_not_lt within
    rw [beyond, beyondRange]
    rfl

/-- The replies to a shard's share of a run are those it gives alone. -/
theorem repliesOf_run
    {index : Nat}
    (within : index < max count 1) :
    (start count capacity checksum).repliesOf index operations
        ((start count capacity checksum).run visits operations).2 =
      (lone count capacity checksum visits operations index).2.map Observation.reply :=
  replies_run (getElem?_start count capacity checksum within) visits operations

/-- A sharded pool holds as many entries as its shards together. -/
theorem size_eq_sum (pool : ShardedPool) : pool.size = (pool.shards.map Pool.size).sum := by
  rw [ShardedPool.size, List.sum, List.foldr_map]

/-- A bounded pool alone keeps to its capacity, as long as the positions suffice. -/
theorem size_lone_le
    (bounded : 0 < capacity)
    (index : Nat)
    (enough : capacity ≤ Recency.positionCount ∨
      ∀ observation ∈ (lone count capacity checksum visits operations index).2,
        observation.size ≤ Recency.positionCount) :
    (lone count capacity checksum visits operations index).1.size ≤ capacity := by
  refine Pool.size_run_le bounded _ _ ?_
  rcases enough with small | fits
  · exact (Pool.standsFor_empty capacity).fits_run (Or.inr (Nat.zero_le _)) bounded small _ _
  · exact fits

/-- Sharding shows in nothing but the capacity: every pool ends, and replies, as one
new pool that is asked only what reaches it; sizes and gauges are sums over these
pools; runs that ask each pool the same in the same order end the same, with the same
replies; and bounded pools keep to their capacity together as long as the positions of their
lists suffice, for the capacity or for all that each pool holds at any time. -/
theorem run_eq_lone_runs :
    ((start count capacity checksum).run visits operations).1.shards =
        (List.range (max count 1)).map
          (fun index => (lone count capacity checksum visits operations index).1) ∧
      (∀ index < max count 1,
        (start count capacity checksum).repliesOf index operations
            ((start count capacity checksum).run visits operations).2 =
          (lone count capacity checksum visits operations index).2.map Observation.reply) ∧
      ((start count capacity checksum).run visits operations).1.size =
        ((List.range (max count 1)).map fun index =>
          (lone count capacity checksum visits operations index).1.size).sum ∧
      ((start count capacity checksum).run visits operations).1.usage =
        Usage.total ((List.range (max count 1)).map fun index =>
          (lone count capacity checksum visits operations index).1.usage) ∧
      (∀ others,
        (∀ index < max count 1, (start count capacity checksum).share index others =
          (start count capacity checksum).share index operations) →
        ((start count capacity checksum).run visits others).1 =
            ((start count capacity checksum).run visits operations).1 ∧
          ∀ index < max count 1,
            (start count capacity checksum).repliesOf index others
                ((start count capacity checksum).run visits others).2 =
              (start count capacity checksum).repliesOf index operations
                ((start count capacity checksum).run visits operations).2) ∧
      (0 < capacity →
        (capacity ≤ Recency.positionCount ∨ ∀ index < max count 1,
          ∀ observation ∈ (lone count capacity checksum visits operations index).2,
            observation.size ≤ Recency.positionCount) →
        ((start count capacity checksum).run visits operations).1.size ≤
          max count 1 * capacity) := by
  have size : ((start count capacity checksum).run visits operations).1.size =
      ((List.range (max count 1)).map fun index =>
        (lone count capacity checksum visits operations index).1.size).sum := by
    rw [size_eq_sum, shards_run, List.map_map]
    rfl
  refine ⟨shards_run .., fun index within => repliesOf_run _ _ _ _ _ within, size, ?_,
    fun others same => ⟨eq_of_shards ?_ ?_, fun index within => ?_⟩, fun bounded enough => ?_⟩
  · rw [ShardedPool.usage, shards_run, List.map_map]
    rfl
  · rw [shards_run, shards_run]
    refine List.map_congr_left fun index listed => ?_
    rw [lone, lone, same index (List.mem_range.1 listed)]
  · rw [checksum_run, checksum_run]
  · rw [repliesOf_run _ _ _ _ _ within, repliesOf_run _ _ _ _ _ within, lone, lone,
      same index within]
  · have each : ∀ part ∈ (List.range (max count 1)).map (fun index =>
        (lone count capacity checksum visits operations index).1.size), part ≤ capacity := by
      intro part listed
      obtain ⟨index, within, rfl⟩ := List.mem_map.1 listed
      exact size_lone_le _ _ _ _ _ bounded index
        (enough.imp id fun fits => fits index (List.mem_range.1 within))
    have total := List.sum_le_card_nsmul _ capacity each
    rw [List.length_map, List.length_range] at total
    rw [size]
    exact total

end

/-- Operations on two pools that take turns. -/
def alternating : List Operation :=
  [.save "a" (Pool.leafUntil 200) 100, .save "d" (Pool.leafUntil 200) 100, .load "a" 110,
    .load "d" 196, .save "b" (Pool.leafUntil 200) 120, .load "d" 197, .load "a" 130, .clear,
    .save "d" (Pool.leafUntil 200) 140, .load "b" 150]

/-- The same operations, those of one pool before those of the other. -/
def grouped : List Operation :=
  [.save "d" (Pool.leafUntil 200) 100, .load "d" 196, .load "d" 197,
    .save "a" (Pool.leafUntil 200) 100, .load "a" 110, .save "b" (Pool.leafUntil 200) 120,
    .load "a" 130, .clear, .load "b" 150, .save "d" (Pool.leafUntil 200) 140]

/-- Two pools of one entry each. -/
theorem run_eq_lone_runs_two :
    (∀ index < max 2 1, (start 2 1 Crc32.ofText).share index grouped =
        (start 2 1 Crc32.ofText).share index alternating) ∧
      ((start 2 1 Crc32.ofText).run (fun _ _ => .listed) grouped).1 =
        ((start 2 1 Crc32.ofText).run (fun _ _ => .listed) alternating).1 ∧
      (0 < 1 ∧ 1 ≤ Recency.positionCount) ∧
      ((start 2 1 Crc32.ofText).run (fun _ _ => .listed) alternating).1.size ≤ max 2 1 * 1 := by
  have same : ∀ index < max 2 1, (start 2 1 Crc32.ofText).share index grouped =
      (start 2 1 Crc32.ofText).share index alternating := by
    decide +kernel
  have small : 1 ≤ Recency.positionCount := by decide
  obtain ⟨-, -, -, -, ordered, limited⟩ :=
    run_eq_lone_runs 2 1 Crc32.ofText (fun _ _ => .listed) alternating
  exact ⟨same, (ordered grouped same).1, ⟨Nat.one_pos, small⟩,
    limited Nat.one_pos (Or.inl small)⟩

end ShardedPool
end FragmentCache
