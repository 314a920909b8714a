import FragmentCache.Proofs.Pool.Item
import FragmentCache.Proofs.Pool.Sharding
import Mathlib.Data.List.Perm.Basic

/-!
# Accounts of pools

An entry that a save brought in is still there, or it left in one of five ways: removed,
cleared away, found expired by a load, swept out as expired, or evicted.  The last three
are counted by the pool itself, and no entry is counted twice.
-/

namespace FragmentCache

namespace Usage

/-- Entries that are held, and those that a pool counted when they left. -/
def accounted (usage : Usage) : Nat := usage.entries + usage.evicted + usage.expired

/-- A gauge of several parts together is the sum of the gauges of the parts. -/
theorem field_total
    (field : Usage → Nat)
    (empty : field {} = 0)
    (add : ∀ first second, field (first.add second) = field first + field second)
    (parts : List Usage) :
    field (total parts) = (parts.map field).sum := by
  have together (start : Usage) :
      field (parts.foldl Usage.add start) = field start + (parts.map field).sum := by
    induction parts generalizing start with
    | nil => rfl
    | cons part rest inductionHypothesis =>
        rw [List.foldl_cons, inductionHypothesis, add, List.map_cons, List.sum_cons, Nat.add_assoc]
  rw [total, together, empty, Nat.zero_add]

/-- Two gauges together account for what each of them does. -/
theorem accounted_add (first second : Usage) :
    (first.add second).accounted = first.accounted + second.accounted := by
  change first.entries + second.entries + (first.evicted + second.evicted) +
    (first.expired + second.expired) = _
  rw [accounted, accounted]
  omega

end Usage

namespace Pool

/-! ## What happens to the entries -/

/-- Number of entries that are not expired at `now`. -/
def freshCount (pool : Pool) (now : Timestamp) : Nat :=
  (pool.entries.values.filter fun entry => !entry.tag.expiredAt now).length

/-- A bounded pool that has no room even without the entries that are expired at `now`. -/
def StaysFull (pool : Pool) (now : Timestamp) : Prop :=
  0 < pool.capacity ∧ pool.capacity ≤ pool.freshCount now

/-- Whether an operation has to evict: one that makes room in a pool that stays full. -/
def Evicts (pool : Pool) : Operation → Prop
  | .save key _ now => pool.entries.contains key = false ∧ pool.StaysFull now
  | .shrink now => pool.StaysFull now
  | .load _ _ | .remove _ | .clear => False

/-- An operation with the gauges before and after it. -/
structure Turn where
  /-- The pool of the key before the operation; none if all pools are asked. -/
  asked : Option Pool
  before : Usage
  operation : Operation
  reply : Reply
  after : Usage

namespace Turn

/-- Whether a save brought in a key that was not there. -/
def introduces (turn : Turn) : Bool :=
  match turn.operation with
  | .save key _ _ => turn.asked.any fun pool => !pool.entries.contains key
  | _ => false

/-- Whether an entry was removed. -/
def removes (turn : Turn) : Bool := turn.reply == .removed true

/-- Number of entries that were cleared away. -/
def cleared (turn : Turn) : Nat := if turn.operation = .clear then turn.before.entries else 0

/-- One operation brings in, takes out and counts no more than it should. -/
structure Settled (turn : Turn) : Prop where
  balance : turn.before.accounted + turn.introduces.toNat =
    turn.after.accounted + turn.removes.toNat + turn.cleared
  expired : turn.reply = .answered .expired → turn.after.expired = turn.before.expired + 1
  evicted : turn.before.evicted < turn.after.evicted →
    ∃ pool, turn.asked = some pool ∧ pool.Evicts turn.operation

/-- A turn is settled beside other pools as well, whose gauges it does not change. -/
theorem Settled.beside
    {turn : Turn}
    (settled : turn.Settled)
    (notClear : turn.operation ≠ .clear)
    {before after : Usage}
    (accounted : after.accounted + turn.before.accounted =
      before.accounted + turn.after.accounted)
    (expired : after.expired + turn.before.expired = before.expired + turn.after.expired)
    (evicted : after.evicted + turn.before.evicted = before.evicted + turn.after.evicted) :
    Settled { turn with before, after } where
  balance := by
    have balance := settled.balance
    have uncleared : turn.cleared = 0 := if_neg notClear
    change before.accounted + turn.introduces.toNat =
      after.accounted + turn.removes.toNat + if turn.operation = .clear then _ else 0
    rw [if_neg notClear]
    omega
  expired answered := by
    have one := settled.expired answered
    change after.expired = before.expired + 1
    omega
  evicted grown := by
    change before.evicted < after.evicted at grown
    exact settled.evicted (by omega)

/-- Each turn starts with the gauges that the one before it ended with. -/
def Chain (first : Usage) : List Turn → Usage → Prop
  | [], last => first = last
  | turn :: rest, last => turn.before = first ∧ Chain turn.after rest last

/-- The entries that came in are held, or left in a way that is counted. -/
theorem balance_of_chain
    {first last : Usage}
    {turns : List Turn}
    (settled : ∀ turn ∈ turns, turn.Settled)
    (chain : Chain first turns last) :
    first.accounted + turns.countP introduces =
      last.accounted + turns.countP removes + (turns.map cleared).sum := by
  induction turns generalizing first with
  | nil =>
      cases chain
      rfl
  | cons turn rest inductionHypothesis =>
      obtain ⟨rfl, chain⟩ := chain
      obtain ⟨turnSettled, restSettled⟩ := List.forall_mem_cons.1 settled
      have one := turnSettled.balance
      have others := inductionHypothesis restSettled chain
      rw [List.countP_cons, List.countP_cons, List.map_cons, List.sum_cons]
      have introduced : (if turn.introduces = true then 1 else 0) = turn.introduces.toNat := by
        cases turn.introduces <;> rfl
      have removed : (if turn.removes = true then 1 else 0) = turn.removes.toNat := by
        cases turn.removes <;> rfl
      rw [introduced, removed]
      omega

end Turn

/-! ## Entries that leave -/

variable {pool : Pool} {key : String} {now : Timestamp} {entry : Entry}

/-- A removal accounts for the entry it takes out. -/
theorem accounted_remove (pool : Pool) (key : String) :
    (pool.remove key).1.usage.accounted + (pool.remove key).2.toNat = pool.usage.accounted := by
  cases found : pool.entries.find? key with
  | none =>
      rw [remove, found]
      rfl
  | some entry =>
      have size := Table.size_erase_of_present found
      rw [remove, found]
      change (pool.entries.erase key).size + pool.evicted + pool.expired + 1 =
        pool.entries.size + pool.evicted + pool.expired
      omega

/-- Removing keys that are there takes out as many entries. -/
theorem size_removeAll
    {keys : List String}
    (distinct : keys.Nodup)
    (present : ∀ key ∈ keys, pool.entries.contains key = true) :
    (keys.foldl (fun pool key => (pool.remove key).1) pool).size + keys.length = pool.size := by
  induction keys generalizing pool with
  | nil => rfl
  | cons key rest inductionHypothesis =>
      obtain ⟨apart, restDistinct⟩ := List.nodup_cons.1 distinct
      obtain ⟨here, restPresent⟩ := List.forall_mem_cons.1 present
      obtain ⟨entry, found⟩ := Option.isSome_iff_exists.1 here
      have removed : (pool.remove key).1.entries = pool.entries.erase key := by
        rw [remove, found]
      have still : ∀ other ∈ rest, (pool.remove key).1.entries.contains other = true := by
        intro other listed
        have differ : ¬other = key := fun same => apart (same ▸ listed)
        rw [removed, Table.contains, Table.find?_erase, if_neg differ]
        exact restPresent other listed
      have size := Table.size_erase_of_present found
      rw [List.foldl_cons, List.length_cons, ← Nat.add_assoc, inductionHypothesis restDistinct still,
        Pool.size, removed]
      exact size

/-- The keys that hold expired entries, in whatever order they are visited. -/
theorem length_filter_holdsExpired
    {keys : List String}
    (visited : keys.Perm pool.entries.keys)
    (now : Timestamp) :
    (keys.filter (pool.holdsExpired now)).length + pool.freshCount now = pool.size := by
  have expired : (keys.filter (pool.holdsExpired now)).length =
      (pool.entries.entries.filter fun entry => entry.2.tag.expiredAt now).length := by
    rw [(visited.filter _).length_eq, Table.keys, List.filter_map, List.length_map]
    refine congrArg _ (List.filter_congr fun entry listed => ?_)
    exact holdsExpired_of_found (Table.find?_eq_some_iff.2 listed) now
  have fresh : pool.freshCount now =
      (pool.entries.entries.filter fun entry => !entry.2.tag.expiredAt now).length := by
    rw [freshCount, Table.values, List.filter_map, List.length_map]
    rfl
  rw [expired, fresh]
  exact (List.length_eq_length_filter_add _).symm

/-- Sweeping leaves the entries that are not expired and counts the others. -/
theorem size_sweep
    {keys : List String}
    (visited : keys.Perm pool.entries.keys)
    (now : Timestamp) :
    (pool.sweep now keys).size = pool.freshCount now ∧
      (pool.sweep now keys).usage.accounted = pool.usage.accounted ∧
      (pool.sweep now keys).capacity = pool.capacity ∧
      (pool.sweep now keys).evicted = pool.evicted := by
  let expired := keys.filter (pool.holdsExpired now)
  let swept := expired.foldl (fun pool key => (pool.remove key).1) pool
  have distinct : expired.Nodup := (visited.nodup_iff.2 pool.entries.nodup).filter _
  have present : ∀ key ∈ expired, pool.entries.contains key = true := fun key listed =>
    Table.mem_keys_iff.1 (visited.subset (List.mem_of_mem_filter listed))
  have size : swept.size + expired.length = pool.size := size_removeAll distinct present
  have count : expired.length + pool.freshCount now = pool.size :=
    length_filter_holdsExpired visited now
  obtain ⟨sameCapacity, sameEvicted, sameExpired⟩ := counters_removeAll pool expired
  refine ⟨?_, ?_, sameCapacity, sameEvicted⟩
  · change swept.size = _
    omega
  · change swept.size + swept.evicted + (swept.expired + expired.length) =
      pool.size + pool.evicted + pool.expired
    change swept.evicted = _ at sameEvicted
    change swept.expired = _ at sameExpired
    omega

/-- An eviction moves one entry from the held ones to the evicted ones. -/
theorem accounted_evictOldest (pool : Pool) :
    pool.evictOldest.usage.accounted = pool.usage.accounted := by
  unfold evictOldest
  split
  · rfl
  · next order oldest popped =>
      split
      · rfl
      · next entry found =>
          have size := Table.size_erase_of_present found
          change (pool.entries.erase oldest).size + (pool.evicted + 1) + pool.expired =
            pool.entries.size + pool.evicted + pool.expired
          omega

theorem accounted_evict (fuel : Nat) (pool : Pool) :
    (evict fuel pool).usage.accounted = pool.usage.accounted := by
  induction fuel generalizing pool with
  | zero => rfl
  | succ fuel inductionHypothesis =>
      rw [evict]
      split
      · rfl
      · rw [inductionHypothesis, accounted_evictOldest]

theorem evict_of_room (roomy : pool.size < pool.capacity) (fuel : Nat) :
    evict fuel pool = pool := by
  cases fuel with
  | zero => rfl
  | succ fuel => rw [evict, if_pos (Or.inl roomy)]

/-- Making room counts each entry that leaves once, and evicts only in a pool that stays
full. -/
theorem accounted_shrinkAlong
    {keys : List String}
    (visited : keys.Perm pool.entries.keys)
    (now : Timestamp) :
    (pool.shrinkAlong keys now).usage.accounted = pool.usage.accounted ∧
      (pool.evicted < (pool.shrinkAlong keys now).evicted → pool.StaysFull now) := by
  obtain ⟨size, accounted, capacity, evicted⟩ := size_sweep visited now
  unfold shrinkAlong
  dsimp only
  split
  · exact ⟨accounted, fun grown => absurd evicted (Nat.ne_of_gt grown)⟩
  · next bounded =>
      refine ⟨(accounted_evict _ _).trans accounted, fun grown => ?_⟩
      by_contra roomy
      have room : (pool.sweep now keys).size < (pool.sweep now keys).capacity := by
        rw [StaysFull] at roomy
        omega
      rw [evict_of_room room, evicted] at grown
      exact Nat.lt_irrefl _ grown

/-! ## Entries that come -/

/-- Overwriting an entry changes nothing in what is accounted for. -/
theorem accounted_overwrite
    (found : pool.entries.find? key = some entry)
    (cached : Cached)
    (now : Timestamp) :
    (pool.overwrite key entry cached now).usage.accounted = pool.usage.accounted := by
  change (pool.entries.put key _).size + pool.evicted + pool.expired = _
  rw [Table.size_put_of_present found]
  rfl

/-- Inserting an entry adds one to what is accounted for. -/
theorem accounted_insert
    (absent : pool.entries.find? key = none)
    (cached : Cached)
    (now : Timestamp) :
    (pool.insert key cached now).usage.accounted = pool.usage.accounted + 1 := by
  change (pool.insert key cached now).size + pool.evicted + pool.expired =
    pool.size + pool.evicted + pool.expired + 1
  rw [size_insert absent]
  omega

/-- Making room brings no key in. -/
theorem find?_shrinkAlong_of_absent
    (absent : pool.entries.find? key = none)
    (keys : List String)
    (now : Timestamp) :
    (pool.shrinkAlong keys now).entries.find? key = none := by
  cases found : (pool.shrinkAlong keys now).entries.find? key with
  | none => rfl
  | some entry =>
      have kept := shrinkAlong_within keys pool now key entry.item (by rw [ledger, found]; rfl)
      rw [ledger, absent] at kept
      cases kept

/-- A save brings in one entry if its key was not there, and evicts only for such a key, in
a pool that stays full. -/
theorem accounted_saveAlong
    {keys : List String}
    (visited : keys.Perm pool.entries.keys)
    (key : String)
    (cached : Cached)
    (now : Timestamp) :
    (pool.saveAlong keys key cached now).usage.accounted =
        pool.usage.accounted + (!pool.entries.contains key).toNat ∧
      (pool.evicted < (pool.saveAlong keys key cached now).evicted →
        pool.entries.contains key = false ∧ pool.StaysFull now) := by
  rw [Table.contains]
  cases found : pool.entries.find? key with
  | some entry =>
      rw [saveAlong_of_present found]
      exact ⟨accounted_overwrite found cached now, fun grown => absurd grown (Nat.lt_irrefl _)⟩
  | none =>
      by_cases full : 0 < pool.capacity ∧ pool.capacity ≤ pool.size
      · obtain ⟨accounted, evicted⟩ := accounted_shrinkAlong visited now
        rw [saveAlong_of_full found full]
        refine ⟨?_, fun grown => ⟨rfl, evicted grown⟩⟩
        rw [accounted_insert (find?_shrinkAlong_of_absent found keys now), accounted]
        rfl
      · rw [saveAlong_of_room found full]
        exact ⟨accounted_insert found cached now, fun grown => absurd grown (Nat.lt_irrefl _)⟩

/-- A load counts an entry that it finds expired, and evicts nothing. -/
theorem accounted_load
    {next : Pool}
    {answer : Answer}
    (loaded : pool.load key now = .ok (next, answer)) :
    next.usage.accounted = pool.usage.accounted ∧ next.evicted = pool.evicted ∧
      (answer = .expired → next.expired = pool.expired + 1) := by
  cases found : pool.entries.find? key with
  | none =>
      rw [load_of_absent found] at loaded
      cases loaded
      exact ⟨rfl, rfl, fun other => by cases other⟩
  | some entry =>
      cases expired : entry.tag.expiredAt now with
      | true =>
          rw [load_of_expired found expired] at loaded
          cases loaded
          have removed := accounted_remove pool key
          have there : (pool.remove key).2 = true := by rw [remove, found]
          rw [there] at removed
          exact ⟨removed, evicted_remove pool key,
            fun _ => congrArg Nat.succ (expired_remove pool key)⟩
      | false =>
          rw [load_of_not_expired found expired] at loaded
          cases asked : entry.dueAt now with
          | error crash => rw [asked] at loaded; cases loaded
          | ok due =>
              rw [asked] at loaded
              cases due with
              | true =>
                  cases loaded
                  refine ⟨?_, rfl, fun other => by cases other⟩
                  change (pool.entries.put key _).size + pool.evicted + pool.expired = _
                  rw [Table.size_put_of_present found]
                  rfl
              | false =>
                  cases loaded
                  exact ⟨rfl, rfl, fun other => by cases other⟩

/-! ## Turns -/

/-- Each operation of a run with the gauges around it. -/
def turns (pool : Pool) (visits : Nat → Visit) : List Operation → List Turn
  | [] => []
  | operation :: rest =>
    let outcome := pool.perform (visits 0) operation
    { asked := some pool, before := pool.usage, operation, reply := outcome.2
      after := outcome.1.usage } :: outcome.1.turns (fun turn => visits (turn + 1)) rest

/-- Every operation on a pool settles its account. -/
theorem settled_perform (pool : Pool) (visit : Visit) (operation : Operation) :
    Turn.Settled {
      asked := some pool, before := pool.usage, operation
      reply := (pool.perform visit operation).2
      after := (pool.perform visit operation).1.usage } := by
  have visited := visit.perm pool.entries.keys
  cases operation with
  | load key now =>
      rw [perform]
      cases loaded : pool.load key now with
      | error crash =>
          refine ⟨rfl, fun answered => ?_, fun grown => absurd grown (Nat.lt_irrefl _)⟩
          cases answered
      | ok outcome =>
          obtain ⟨accounted, evicted, expired⟩ := accounted_load loaded
          refine ⟨accounted.symm, fun answered => ?_, fun grown => ?_⟩
          · exact expired (Reply.answered.inj answered)
          · exact absurd evicted (Nat.ne_of_gt grown)
  | save key cached now =>
      obtain ⟨accounted, evicted⟩ := accounted_saveAlong visited key cached now
      refine ⟨accounted.symm, fun answered => ?_, fun grown => ⟨pool, rfl, evicted grown⟩⟩
      cases answered
  | remove key =>
      have accounted := accounted_remove pool key
      have evicted := evicted_remove pool key
      refine ⟨?_, fun answered => ?_, fun grown => absurd evicted (Nat.ne_of_gt grown)⟩
      · change pool.usage.accounted = _
        rw [← accounted]
        cases found : (pool.remove key).2 <;> simp [perform, found, Turn.removes, Turn.cleared]
      · cases answered
  | shrink now =>
      obtain ⟨accounted, evicted⟩ := accounted_shrinkAlong visited now
      refine ⟨accounted.symm, fun answered => ?_, fun grown => ⟨pool, rfl, evicted grown⟩⟩
      cases answered
  | clear =>
      refine ⟨?_, fun answered => ?_, fun grown => absurd grown (Nat.lt_irrefl _)⟩
      · change pool.size + pool.evicted + pool.expired =
          0 + pool.evicted + pool.expired + 0 + pool.size
        omega
      · cases answered

/-- Every turn of a pool's run settles its account. -/
theorem settled_turns (pool : Pool) (visits : Nat → Visit) (operations : List Operation) :
    ∀ turn ∈ pool.turns visits operations, turn.Settled := by
  induction operations generalizing pool visits with
  | nil => exact fun _ unlisted => absurd unlisted List.not_mem_nil
  | cons operation rest inductionHypothesis =>
      exact List.forall_mem_cons.2 ⟨settled_perform pool _ operation, inductionHypothesis _ _⟩

/-- The turns of a pool's run follow on one another. -/
theorem chain_turns (pool : Pool) (visits : Nat → Visit) (operations : List Operation) :
    Turn.Chain pool.usage (pool.turns visits operations) (pool.run visits operations).1.usage := by
  induction operations generalizing pool visits with
  | nil => rfl
  | cons operation rest inductionHypothesis => exact ⟨rfl, inductionHypothesis _ _⟩

end Pool

namespace ShardedPool

open FragmentCache.Pool (Visit Turn)

variable {pool : ShardedPool} {operation : Operation} {key : String}

/-! ## Turns of a sharded pool -/

/-- Changing the pool of a key changes a gauge of all pools as it changes that of the
pool. -/
theorem field_usage_setShard
    (field : Usage → Nat)
    (empty : field {} = 0)
    (add : ∀ first second, field (first.add second) = field first + field second)
    (pool : ShardedPool)
    (key : String)
    (shard : Pool) :
    field (pool.setShard key shard).usage + field (pool.shard key).usage =
      field pool.usage + field shard.usage := by
  obtain ⟨inside, here⟩ := List.getElem?_eq_some_iff.1 (getElem?_index pool key)
  have before := (List.getElem_cons_eraseIdx_perm inside).map (field ∘ Pool.usage)
  have after := (List.set_perm_cons_eraseIdx inside shard).map (field ∘ Pool.usage)
  have gauges := Usage.field_total field empty add
  rw [here] at before
  rw [usage, usage, gauges, gauges, List.map_map, List.map_map, ← before.sum_nat]
  change ((pool.shards.set _ shard).map _).sum + _ = _
  rw [after.sum_nat, List.map_cons, List.sum_cons, List.map_cons, List.sum_cons]
  simp only [Function.comp_apply]
  omega

/-- Clearing takes the entries and leaves the counters. -/
theorem usage_clear (pool : ShardedPool) :
    pool.clear.usage.entries = 0 ∧ pool.clear.usage.evicted = pool.usage.evicted ∧
      pool.clear.usage.expired = pool.usage.expired := by
  have entries := Usage.field_total Usage.entries rfl fun _ _ => rfl
  have evicted := Usage.field_total Usage.evicted rfl fun _ _ => rfl
  have expired := Usage.field_total Usage.expired rfl fun _ _ => rfl
  simp only [usage, entries, evicted, expired, List.map_map]
  refine ⟨?_, ?_, ?_⟩
  · rw [clear]
    simp [Function.comp_def, Pool.usage, Pool.clear, Pool.size, Table.size, Table.empty]
  · rw [clear, List.map_map]
    rfl
  · rw [clear, List.map_map]
    rfl

theorem toPool_ne_clear (keyed : operation.key? = some key) : operation.toPool ≠ .clear := by
  cases operation with
  | clear => cases keyed
  | load | save | remove => exact fun same => by cases same

/-- Each operation of a run with the gauges around it. -/
def turns (pool : ShardedPool) (visits : Nat → Nat → Visit) : List Operation → List Turn
  | [] => []
  | operation :: rest =>
    let outcome := pool.perform (fun index => visits index 0) operation
    let later index turn :=
      visits index (if pool.reaches index operation then turn + 1 else turn)
    { asked := operation.key?.map pool.shard, before := pool.usage
      operation := operation.toPool, reply := outcome.2
      after := outcome.1.usage } :: outcome.1.turns later rest

/-- Every operation on a sharded pool settles its account. -/
theorem settled_perform (pool : ShardedPool) (visits : Nat → Visit) (operation : Operation) :
    Turn.Settled {
      asked := operation.key?.map pool.shard, before := pool.usage
      operation := operation.toPool, reply := (pool.perform visits operation).2
      after := (pool.perform visits operation).1.usage } := by
  cases keyed : operation.key? with
  | none =>
      obtain ⟨cleared, asked⟩ := perform_of_keyless pool keyed visits
      obtain ⟨entries, evicted, expired⟩ := usage_clear pool
      rw [cleared, asked]
      refine ⟨?_, fun answered => ?_, fun grown => absurd evicted (Nat.ne_of_gt grown)⟩
      · change pool.usage.entries + pool.usage.evicted + pool.usage.expired =
          pool.clear.usage.entries + pool.clear.usage.evicted + pool.clear.usage.expired + 0 +
            pool.usage.entries
        omega
      · cases answered
  | some key =>
      have settled := (pool.shard key).settled_perform (visits (pool.index key)) operation.toPool
      rw [perform_of_key keyed]
      exact settled.beside (toPool_ne_clear keyed)
        (field_usage_setShard Usage.accounted rfl Usage.accounted_add pool key _)
        (field_usage_setShard Usage.expired rfl (fun _ _ => rfl) pool key _)
        (field_usage_setShard Usage.evicted rfl (fun _ _ => rfl) pool key _)

/-- Every turn of a sharded pool's run settles its account. -/
theorem settled_turns
    (pool : ShardedPool)
    (visits : Nat → Nat → Visit)
    (operations : List Operation) :
    ∀ turn ∈ pool.turns visits operations, turn.Settled := by
  induction operations generalizing pool visits with
  | nil => exact fun _ unlisted => absurd unlisted List.not_mem_nil
  | cons operation rest inductionHypothesis =>
      exact List.forall_mem_cons.2 ⟨settled_perform pool _ operation, inductionHypothesis _ _⟩

/-- The turns of a sharded pool's run follow on one another. -/
theorem chain_turns
    (pool : ShardedPool)
    (visits : Nat → Nat → Visit)
    (operations : List Operation) :
    Turn.Chain pool.usage (pool.turns visits operations) (pool.run visits operations).1.usage := by
  induction operations generalizing pool visits with
  | nil => rfl
  | cons operation rest inductionHypothesis => exact ⟨rfl, inductionHypothesis _ _⟩

end ShardedPool

namespace Pool

/-- The accounts of a run from an empty start: no entry is lost or counted twice. -/
structure Accounted (turns : List Turn) (last : Usage) : Prop where
  balance : turns.countP Turn.introduces =
    last.entries + last.evicted + last.expired + turns.countP Turn.removes +
      (turns.map Turn.cleared).sum
  /-- A load that finds its entry expired counts one. -/
  expired : ∀ turn ∈ turns, turn.reply = .answered .expired →
    turn.after.expired = turn.before.expired + 1
  /-- Entries are evicted only to make room in a pool that stays full. -/
  evicted : ∀ turn ∈ turns, turn.before.evicted < turn.after.evicted →
    ∃ pool, turn.asked = some pool ∧ pool.Evicts turn.operation

/-- Turns that settle their accounts and follow on one another are accounted for together.
-/
theorem accounted_of_settled
    {turns : List Turn}
    {first last : Usage}
    (settled : ∀ turn ∈ turns, turn.Settled)
    (chain : Turn.Chain first turns last)
    (empty : first.accounted = 0) :
    Accounted turns last where
  balance := by
    have balance := Turn.balance_of_chain settled chain
    rw [empty, Nat.zero_add] at balance
    exact balance
  expired turn listed := (settled turn listed).expired
  evicted turn listed := (settled turn listed).evicted

/-- In every run of a pool, and in every run of a sharded pool, the entries that came in
are the ones that are held, that were evicted, expired, removed and cleared away; a load
counts the entry that it finds expired, and entries are evicted only by a save of a new
key or on demand, in a bounded pool that is full even without its expired entries. -/
theorem entries_accounted
    (count capacity : Nat)
    (checksum : String → Nat)
    (visits : Nat → Visit)
    (operations : List Operation)
    (shardVisits : Nat → Nat → Visit)
    (shardOperations : List ShardedPool.Operation) :
    Accounted (({ capacity } : Pool).turns visits operations)
        (({ capacity } : Pool).run visits operations).1.usage ∧
      Accounted ((ShardedPool.start count capacity checksum).turns shardVisits shardOperations)
        ((ShardedPool.start count capacity checksum).run shardVisits shardOperations).1.usage := by
  constructor
  · exact accounted_of_settled (settled_turns _ _ _) (chain_turns _ _ _) rfl
  · refine accounted_of_settled (ShardedPool.settled_turns _ _ _) (ShardedPool.chain_turns _ _ _) ?_
    have accounted := Usage.field_total Usage.accounted rfl Usage.accounted_add
    rw [ShardedPool.usage, accounted]
    change ((((List.replicate _ _).map _).map _).sum : Nat) = 0
    simp [Usage.accounted, Pool.usage, Pool.size, Table.size, Table.empty]

end Pool
end FragmentCache
