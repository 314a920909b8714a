import FragmentCache.Pool.Sharded
import FragmentCache.Proofs.Ledger
import FragmentCache.Proofs.Pool.Arrangement
import FragmentCache.Proofs.Tier.Lasting

/-!
# Items of pools

A load of a pool is one of the ledger of its items.  A save is one as well, but may
drop other items to make room.
-/

namespace FragmentCache

namespace Pool

open FragmentCache.Shelf (Item)

/-- What an entry holds, without its place in the order of touches. -/
def Entry.item (entry : Entry) : Item where
  cached := ⟨entry.tag, entry.document⟩
  storedTime := entry.storedTime
  prefetchMarked := entry.prefetchMarked

/-- The items under the keys. -/
def ledger (pool : Pool) : Ledger := fun key => (pool.entries.find? key).map Entry.item

variable {pool : Pool} {key : String} {now : Timestamp} {entry : Entry}

theorem ledger_of_put
    {after : Pool}
    (changed : after.entries = pool.entries.put key entry) :
    after.ledger = pool.ledger.put key (some entry.item) := by
  funext other
  rw [ledger, changed, Table.find?_put, Ledger.put]
  split <;> rfl

theorem ledger_of_erase
    {after : Pool}
    (changed : after.entries = pool.entries.erase key) :
    after.ledger = pool.ledger.put key none := by
  funext other
  rw [ledger, changed, Table.find?_erase, Ledger.put]
  split <;> rfl

/-- A removal strikes its key from the ledger. -/
theorem ledger_remove (pool : Pool) (key : String) :
    (pool.remove key).1.ledger = pool.ledger.put key none := by
  cases found : pool.entries.find? key with
  | none =>
      have absent : pool.ledger key = none := by rw [ledger, found]; rfl
      rw [remove, found, ← absent, Ledger.put_self]
  | some entry =>
      rw [remove, found]
      exact ledger_of_erase rfl

/-! ## Loads -/

/-- A load answers as what is kept under its key says. -/
theorem load_ledger (pool : Pool) (key : String) (now : Timestamp) :
    (pool.load key now).map (Prod.map ledger id) = pool.ledger.load key now := by
  cases found : pool.entries.find? key with
  | none =>
      have absent : pool.ledger key = none := by rw [ledger, found]; rfl
      rw [load_of_absent found, Ledger.load, absent, Ledger.ask_none]
      change Except.ok (pool.ledger, Answer.notFound) = .ok (pool.ledger.put key none, .notFound)
      rw [← absent, Ledger.put_self]
  | some entry =>
      have kept : pool.ledger key = some entry.item := by rw [ledger, found]; rfl
      rw [Ledger.load, kept]
      cases expired : entry.item.expiredAt now with
      | true =>
          rw [load_of_expired found expired, Ledger.ask_of_expired expired]
          change Except.ok ((pool.remove key).1.ledger, Answer.expired) = _
          rw [ledger_remove]
          rfl
      | false =>
          rw [load_of_not_expired found expired, Ledger.ask_of_fresh expired]
          change ((entry.dueAt now).map _).map _ = ((entry.dueAt now).map _).map _
          cases entry.dueAt now with
          | error crash => rfl
          | ok due =>
              cases due with
              | true =>
                  change Except.ok (Pool.ledger _, _) = _
                  rw [ledger_of_put rfl]
                  rfl
              | false =>
                  change Except.ok (pool.ledger, _) =
                    Except.ok (pool.ledger.put key (some entry.item), _)
                  rw [← kept, Ledger.put_self]
                  rfl

/-- A load that does not crash keeps under its key what the ledger keeps there. -/
theorem asked_of_load
    {next : Pool}
    {answer : Answer}
    (loaded : pool.load key now = .ok (next, answer)) :
    ∃ kept, Ledger.ask (pool.ledger key) now = .ok (kept, answer) ∧
      next.ledger = pool.ledger.put key kept := by
  have same := pool.load_ledger key now
  rw [loaded] at same
  exact Ledger.load_eq_ok same.symm

/-- A load of what can be asked about answers it. -/
theorem load_of_ask
    {kept : Option Item}
    {answer : Answer}
    (asked : Ledger.ask (pool.ledger key) now = .ok (kept, answer)) :
    ∃ next, pool.load key now = .ok (next, answer) :=
  Ledger.exists_answer_of_ask (pool.load_ledger key now) asked

/-- A pool's load crashes only where its ledger does. -/
theorem ask_of_load_crashed
    {crash : Crash}
    (crashed : pool.load key now = .error crash) :
    Ledger.ask (pool.ledger key) now = .error crash := by
  have same := pool.load_ledger key now
  rw [crashed] at same
  exact Ledger.load_eq_error same.symm

theorem capacity_load
    {next : Pool}
    {answer : Answer}
    (loaded : pool.load key now = .ok (next, answer)) :
    next.capacity = pool.capacity := by
  cases found : pool.entries.find? key with
  | none =>
      rw [load_of_absent found] at loaded
      cases loaded
      rfl
  | some entry =>
      cases expired : entry.tag.expiredAt now with
      | true =>
          rw [load_of_expired found expired] at loaded
          cases loaded
          exact capacity_remove pool key
      | false =>
          rw [load_of_not_expired found expired] at loaded
          cases asked : entry.dueAt now with
          | error crash => rw [asked] at loaded; cases loaded
          | ok due =>
              rw [asked] at loaded
              cases due <;> cases loaded <;> rfl

/-! ## Saves -/

/-- An insertion is a save in the ledger. -/
theorem ledger_insert (pool : Pool) (key : String) (cached : Cached) (now : Timestamp) :
    (pool.insert key cached now).ledger = pool.ledger.save key cached now := by
  rw [insert, ledger_of_put rfl]
  rfl

/-- An overwriting is a save in the ledger. -/
theorem ledger_overwrite
    (pool : Pool)
    (key : String)
    (old : Entry)
    (cached : Cached)
    (now : Timestamp) :
    (pool.overwrite key old cached now).ledger = pool.ledger.save key cached now := by
  rw [overwrite, ledger_of_put rfl]
  rfl

theorem capacity_save
    (unbounded : pool.capacity = 0)
    (key : String)
    (cached : Cached)
    (now : Timestamp) :
    (pool.save key cached now).capacity = 0 := by
  rw [save]
  cases found : pool.entries.find? key with
  | none =>
      rw [saveAlong_of_room found (by omega)]
      exact unbounded
  | some entry =>
      rw [saveAlong_of_present found]
      exact unbounded

/-! ## Making room -/

theorem removeAll_within (pool : Pool) (keys : List String) :
    (keys.foldl (fun pool key => (pool.remove key).1) pool).ledger.Within pool.ledger := by
  induction keys generalizing pool with
  | nil => exact .refl _
  | cons key rest inductionHypothesis =>
      refine (inductionHypothesis (pool.remove key).1).trans ?_
      rw [ledger_remove]
      exact Ledger.put_none_within _ _

theorem evictOldest_within (pool : Pool) : pool.evictOldest.ledger.Within pool.ledger := by
  unfold evictOldest
  split
  · exact .refl _
  · next order oldest popped =>
      split
      · exact .refl _
      · rw [ledger_of_erase rfl]
        exact Ledger.put_none_within pool.ledger oldest

theorem evict_within (fuel : Nat) (pool : Pool) : (evict fuel pool).ledger.Within pool.ledger := by
  induction fuel generalizing pool with
  | zero => exact .refl _
  | succ fuel inductionHypothesis =>
      rw [evict]
      split
      · exact .refl _
      · exact (inductionHypothesis pool.evictOldest).trans (evictOldest_within pool)

/-- Shrinking leaves a ledger within the one before. -/
theorem shrinkAlong_within (keys : List String) (pool : Pool) (now : Timestamp) :
    (pool.shrinkAlong keys now).ledger.Within pool.ledger := by
  have swept : (pool.sweep now keys).ledger.Within pool.ledger := removeAll_within pool _
  rw [shrinkAlong]
  split
  · exact swept
  · exact (evict_within _ _).trans swept

/-- A save keeps its document.  Only one of a new key into a full pool may drop others, and
none appears that was not there. -/
theorem exists_ledger_saveAlong
    (keys : List String)
    (pool : Pool)
    (key : String)
    (cached : Cached)
    (now : Timestamp) :
    ∃ others : Ledger, (pool.saveAlong keys key cached now).ledger = others.save key cached now ∧
      others.Within pool.ledger ∧
      ((pool.entries.find? key = none → ¬(0 < pool.capacity ∧ pool.capacity ≤ pool.size)) →
        others = pool.ledger) := by
  cases found : pool.entries.find? key with
  | none =>
      by_cases full : 0 < pool.capacity ∧ pool.capacity ≤ pool.size
      · refine ⟨(pool.shrinkAlong keys now).ledger, ?_, shrinkAlong_within keys pool now, ?_⟩
        · rw [saveAlong_of_full found full, ledger_insert]
        · exact fun roomy => absurd full (roomy rfl)
      · refine ⟨pool.ledger, ?_, .refl _, fun _ => rfl⟩
        rw [saveAlong_of_room found full, ledger_insert]
  | some entry =>
      refine ⟨pool.ledger, ?_, .refl _, fun _ => rfl⟩
      rw [saveAlong_of_present found, ledger_overwrite]

/-- After a save its document is kept, whatever had to go for it. -/
theorem kept_of_saveAlong
    (pool : Pool)
    (keys : List String)
    (key : String)
    (cached : Cached)
    (now : Timestamp) :
    (pool.saveAlong keys key cached now).ledger key = some { cached, storedTime := now } := by
  obtain ⟨others, saved, -⟩ := exists_ledger_saveAlong keys pool key cached now
  rw [saved, Ledger.save, Ledger.put_same]

/-- A save keeps its document, and of the others none but those that were there. -/
theorem save_within (pool : Pool) (key : String) (cached : Cached) (now : Timestamp) :
    (pool.save key cached now).ledger.Within (pool.ledger.save key cached now) := by
  obtain ⟨others, saved, within, -⟩ :=
    exists_ledger_saveAlong pool.entries.keys pool key cached now
  rw [save, saved]
  exact within.put key _

/-- A pool without a capacity keeps all other items. -/
theorem save_ledger
    (unbounded : pool.capacity = 0)
    (key : String)
    (cached : Cached)
    (now : Timestamp) :
    (pool.save key cached now).ledger = pool.ledger.save key cached now := by
  obtain ⟨others, saved, -, keepsAll⟩ :=
    exists_ledger_saveAlong pool.entries.keys pool key cached now
  rw [save, saved, keepsAll fun _ full => absurd full.1 (by omega)]

end Pool

namespace ShardedPool

/-- The items under the keys. -/
def ledger (pool : ShardedPool) : Ledger := fun key => (pool.shard key).ledger key

theorem shard_of_index {pool : ShardedPool} {key other : String}
    (same : pool.index other = pool.index key) :
    pool.shard other = pool.shard key := by
  apply Option.some.inj
  rw [← getElem?_index, ← getElem?_index, same]

/-- Changing the pool of a key changes what is kept under the keys of that pool. -/
theorem ledger_setShard (pool : ShardedPool) (key : String) (shard : Pool) (other : String) :
    (pool.setShard key shard).ledger other =
      if pool.index other = pool.index key then shard.ledger other else pool.ledger other := by
  rw [ledger, shard_setShard]
  split <;> rfl

/-- A change of one key in its shard is that change in the whole ledger. -/
theorem ledger_setShard_put
    (pool : ShardedPool)
    {key : String}
    {shard : Pool}
    {kept : Option Shelf.Item}
    (changed : shard.ledger = (pool.shard key).ledger.put key kept) :
    (pool.setShard key shard).ledger = pool.ledger.put key kept := by
  funext other
  rw [ledger_setShard, changed, Ledger.put, Ledger.put]
  by_cases same : other = key
  · rw [if_pos same, if_pos same, if_pos (by rw [same])]
  · rw [if_neg same, if_neg same]
    split
    · next sameIndex => rw [ledger, shard_of_index sameIndex]
    · rfl

/-- A load answers as what is kept under its key says. -/
theorem load_ledger (pool : ShardedPool) (key : String) (now : Timestamp) :
    (pool.load key now).map (Prod.map ledger id) = pool.ledger.load key now := by
  have loaded := (pool.shard key).load_ledger key now
  rw [load, Ledger.load]
  rw [Ledger.load] at loaded
  change _ = (Ledger.ask ((pool.shard key).ledger key) now).map _
  cases asked : Ledger.ask ((pool.shard key).ledger key) now with
  | error crash =>
      rw [asked] at loaded
      cases outcome : (pool.shard key).load key now with
      | error other => rw [outcome] at loaded; exact loaded
      | ok answered => rw [outcome] at loaded; cases loaded
  | ok kept =>
      rw [asked] at loaded
      cases outcome : (pool.shard key).load key now with
      | error other => rw [outcome] at loaded; cases loaded
      | ok answered =>
          rw [outcome] at loaded
          obtain ⟨shard, answer⟩ := answered
          obtain ⟨kept, keptAnswer⟩ := kept
          obtain ⟨changed, rfl⟩ := Prod.mk.inj (Except.ok.inj loaded)
          change Except.ok ((pool.setShard key shard).ledger, answer) = _
          rw [pool.ledger_setShard_put changed]
          rfl

/-- A load that does not crash keeps under its key what the ledger keeps there. -/
theorem asked_of_load
    {pool next : ShardedPool}
    {key : String}
    {now : Timestamp}
    {answer : Pool.Answer}
    (loaded : pool.load key now = .ok (next, answer)) :
    ∃ kept, Ledger.ask (pool.ledger key) now = .ok (kept, answer) ∧
      next.ledger = pool.ledger.put key kept := by
  have same := pool.load_ledger key now
  rw [loaded] at same
  exact Ledger.load_eq_ok same.symm

/-- A sharded pool answers as its ledger does. -/
theorem load_of_ask
    {pool : ShardedPool}
    {key : String}
    {now : Timestamp}
    {kept : Option Shelf.Item}
    {answer : Pool.Answer}
    (asked : Ledger.ask (pool.ledger key) now = .ok (kept, answer)) :
    ∃ next, pool.load key now = .ok (next, answer) :=
  Ledger.exists_answer_of_ask (pool.load_ledger key now) asked

/-- What was just saved is in the ledger. -/
theorem kept_of_save (pool : ShardedPool) (key : String) (cached : Cached) (now : Timestamp) :
    (pool.save key cached now).ledger key = some { cached, storedTime := now } := by
  rw [save, ledger_setShard, if_pos rfl]
  exact Pool.kept_of_saveAlong _ _ key cached now

/-- A save keeps its document, and of the others none but those that were there. -/
theorem save_within (pool : ShardedPool) (key : String) (cached : Cached) (now : Timestamp) :
    (pool.save key cached now).ledger.Within (pool.ledger.save key cached now) := by
  have within := (pool.shard key).save_within key cached now
  intro other item kept
  rw [save, ledger_setShard] at kept
  split at kept
  · next same =>
      have large := within other item kept
      rw [Ledger.save, Ledger.put] at large ⊢
      rw [ledger, shard_of_index same]
      exact large
  · next differ =>
      have otherKey : other ≠ key := fun same => differ (by rw [same])
      rw [Ledger.save, Ledger.put, if_neg otherKey]
      exact kept

/-- No pool drops anything to make room. -/
def Unbounded (pool : ShardedPool) : Prop := ∀ key, (pool.shard key).capacity = 0

theorem unbounded_new (count : Nat) : (new count 0).Unbounded := by
  intro key
  rw [shard_new]

/-- A sharded pool stays unbounded when a shard is exchanged for an unbounded one. -/
theorem Unbounded.setShard
    {pool : ShardedPool}
    (unbounded : pool.Unbounded)
    {key : String}
    {shard : Pool}
    (capacity : shard.capacity = 0) :
    (pool.setShard key shard).Unbounded := by
  intro other
  rw [shard_setShard]
  split
  · exact capacity
  · exact unbounded other

theorem Unbounded.load
    {pool next : ShardedPool}
    {answer : Pool.Answer}
    {key : String}
    {now : Timestamp}
    (unbounded : pool.Unbounded)
    (loaded : pool.load key now = .ok (next, answer)) :
    next.Unbounded := by
  rw [ShardedPool.load] at loaded
  cases outcome : (pool.shard key).load key now with
  | error crash => rw [outcome] at loaded; cases loaded
  | ok answered =>
      rw [outcome] at loaded
      cases loaded
      exact unbounded.setShard ((Pool.capacity_load outcome).trans (unbounded key))

theorem Unbounded.save
    {pool : ShardedPool}
    (unbounded : pool.Unbounded)
    (key : String)
    (cached : Cached)
    (now : Timestamp) :
    (pool.save key cached now).Unbounded :=
  unbounded.setShard (Pool.capacity_save (unbounded key) key cached now)

/-- A save into an unbounded sharded pool is a save in its ledger. -/
theorem save_ledger
    {pool : ShardedPool}
    (unbounded : pool.Unbounded)
    (key : String)
    (cached : Cached)
    (now : Timestamp) :
    (pool.save key cached now).ledger = pool.ledger.save key cached now :=
  pool.ledger_setShard_put (Pool.save_ledger (unbounded key) key cached now)

theorem ledger_new (count capacity : Nat) : (new count capacity).ledger = Ledger.empty := by
  funext key
  rw [ledger, shard_new]
  rfl

end ShardedPool
end FragmentCache
