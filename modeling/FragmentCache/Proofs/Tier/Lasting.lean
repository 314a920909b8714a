import FragmentCache.Block
import FragmentCache.Proofs.Chain.Run
import FragmentCache.Proofs.Pool.Branches
import FragmentCache.Proofs.Table
import FragmentCache.Tier.Memory

/-!
# Documents that last

A document stored without an end of validity is served by every later load of its key,
until another one is stored.  Such loads and saves are followed from a pool up to a
chain of one memory tier.
-/

namespace FragmentCache

/-! ## Pools -/

namespace Pool

/-- Under a key there is this document and it never expires, or there is nothing. -/
def Keeps (pool : Pool) (key : String) (kept : Option Document) : Prop :=
  (pool.entries.find? key).map Entry.document = kept ∧
    ∀ entry, pool.entries.find? key = some entry → entry.tag.hasExpireTime = false

variable {pool : Pool} {key : String} {kept : Option Document}

theorem keeps_empty (capacity : Nat) (key : String) : ({ capacity } : Pool).Keeps key none :=
  ⟨rfl, nofun⟩

/-- A load finds what is kept, and it stays. -/
theorem Keeps.load
    (keeps : pool.Keeps key kept)
    (now : Timestamp) :
    ∃ next answer, pool.load key now = .ok (next, answer) ∧ next.Keeps key kept ∧
      answer.hit?.map Cached.document = kept := by
  cases found : pool.entries.find? key with
  | none =>
      have same := keeps.1
      rw [found] at same
      exact ⟨pool, .notFound, load_of_absent found, keeps, same⟩
  | some entry =>
      have same := keeps.1
      rw [found] at same
      have lasting : entry.tag.hasExpireTime = false := keeps.2 entry found
      have fresh : entry.tag.expiredAt now = false := by
        rw [Tag.expiredAt, lasting, Bool.false_and]
      have undue : entry.dueAt now = .ok false := by
        unfold Entry.dueAt Tag.prefetchDueAt
        rw [lasting]
        split <;> rfl
      refine ⟨{ pool with order := pool.order.moveToBack entry.position },
        .success ⟨entry.tag, entry.document⟩, ?_, keeps, same⟩
      rw [load_of_not_expired found fresh, undue]
      rfl

/-- Under a key that was saved there is what was saved. -/
theorem find?_saveAlong
    (pool : Pool)
    (keys : List String)
    (key : String)
    (cached : Cached)
    (now : Timestamp) :
    ∃ entry, (pool.saveAlong keys key cached now).entries.find? key = some entry ∧
      entry.tag = cached.tag ∧ entry.document = cached.document := by
  have inserted : ∀ roomy : Pool,
      ∃ entry, (roomy.insert key cached now).entries.find? key = some entry ∧
        entry.tag = cached.tag ∧ entry.document = cached.document := by
    intro roomy
    refine ⟨_, (Table.find?_put _ _ _ _).trans (if_pos rfl), rfl, rfl⟩
  cases found : pool.entries.find? key with
  | none =>
      by_cases full : 0 < pool.capacity ∧ pool.capacity ≤ pool.size
      · rw [saveAlong_of_full found full]
        exact inserted _
      · rw [saveAlong_of_room found full]
        exact inserted _
  | some entry =>
      rw [saveAlong_of_present found]
      exact ⟨_, (Table.find?_put _ _ _ _).trans (if_pos rfl), rfl, rfl⟩

/-- A pool keeps a document that was saved without an expire time. -/
theorem keeps_save
    {cached : Cached}
    (lasting : cached.tag.hasExpireTime = false)
    (now : Timestamp) :
    (pool.save key cached now).Keeps key (some cached.document) := by
  obtain ⟨entry, found, sameTag, sameDocument⟩ :=
    find?_saveAlong pool pool.entries.keys key cached now
  change (pool.save key cached now).entries.find? key = some entry at found
  constructor
  · rw [found, ← sameDocument]
    rfl
  · intro other otherFound
    rw [found] at otherFound
    cases otherFound
    rw [sameTag]
    exact lasting

end Pool

/-! ## Sharded pools -/

namespace ShardedPool

theorem count_setShard (pool : ShardedPool) (key : String) (shard : Pool) :
    (pool.setShard key shard).count = pool.count :=
  List.length_set

theorem index_setShard (pool : ShardedPool) (key other : String) (shard : Pool) :
    (pool.setShard key shard).index other = pool.index other := by
  unfold index
  rw [count_setShard]
  rfl

theorem getElem?_index (pool : ShardedPool) (key : String) :
    pool.shards[pool.index key]? = some (pool.shard key) :=
  List.getElem?_eq_getElem (pool.index_lt_count key)

/-- Changing the pool of a key changes that pool only. -/
theorem shard_setShard (pool : ShardedPool) (key other : String) (shard : Pool) :
    (pool.setShard key shard).shard other =
      if pool.index other = pool.index key then shard else pool.shard other := by
  apply Option.some.inj
  rw [← getElem?_index, index_setShard]
  change (pool.shards.set (pool.index key) shard)[pool.index other]? = _
  rw [List.getElem?_set]
  have within : pool.index key < pool.shards.length := pool.index_lt_count key
  by_cases same : pool.index other = pool.index key
  · rw [if_pos same, if_pos same.symm, if_pos within]
  · rw [if_neg same, if_neg (Ne.symm same), getElem?_index]

@[simp] theorem shard_setShard_self (pool : ShardedPool) (key : String) (shard : Pool) :
    (pool.setShard key shard).shard key = shard := by
  rw [shard_setShard, if_pos rfl]

theorem shard_new (count capacity : Nat) (key : String) :
    (new count capacity).shard key = { capacity } :=
  List.getElem_replicate _

end ShardedPool

/-! ## Memory tiers -/

namespace MemoryTier

variable {tier : MemoryTier} {key : Key} {kept : Option Document}

/-- What the tier keeps under a key. -/
def Keeps (tier : MemoryTier) (key : Key) (kept : Option Document) : Prop :=
  (tier.pool.shard key.storageId).Keeps key.storageId kept

theorem keeps_new (settings : Settings) (key : Key) : (new settings).Keeps key none := by
  unfold Keeps new
  rw [ShardedPool.shard_new]
  exact Pool.keeps_empty settings.poolSize key.storageId

/-- A load from a memory tier finds what it keeps, and the tier goes on keeping it. -/
theorem Keeps.loadAt
    (keeps : tier.Keeps key kept)
    (now : Timestamp) :
    ∃ next found, tier.loadAt key now = .ok (next, found) ∧ next.Keeps key kept ∧
      next.settings = tier.settings ∧ found.map Cached.document = kept := by
  obtain ⟨shard, answer, loaded, stays, same⟩ := Pool.Keeps.load keeps now
  unfold MemoryTier.loadAt ShardedPool.load
  rw [loaded]
  refine ⟨_, _, rfl, ?_, rfl, same⟩
  unfold Keeps
  rw [ShardedPool.shard_setShard_self]
  exact stays

/-- A memory tier keeps a document that was saved without an expire time. -/
theorem keeps_saveAt
    {cached : Cached}
    (lasting : cached.tag.hasExpireTime = false)
    (now : Timestamp) :
    (tier.saveAt key cached now).1.Keeps key (some cached.document) := by
  unfold Keeps MemoryTier.saveAt ShardedPool.save
  rw [ShardedPool.shard_setShard_self]
  exact Pool.keeps_save lasting now

theorem load_of_loadAt
    {surroundings : Surroundings}
    {next : MemoryTier}
    {found : Option Cached}
    (loaded : tier.loadAt key surroundings.readClock.1 = .ok (next, found)) :
    CacheTier.load tier key surroundings = (next, surroundings.readClock.2, .ok found) := by
  simp only [CacheTier.load, loaded]

end MemoryTier

/-! ## Chains of one tier -/

namespace Chain

section Single

variable {τ : Type} [CacheTier τ] {chain : Chain τ} {counted : Counted τ} {tier : τ}
  {invocation : Invocation} {surroundings later : Surroundings}

/-- A chain of one tier loads as that tier does, and counts it. -/
theorem load_of_single
    (single : chain.tiers = [counted])
    {answer : Except Crash (Option Cached)}
    (loaded : CacheTier.load counted.tier (CacheTier.keyFor counted.tier invocation)
      surroundings = (tier, later, answer)) :
    chain.load invocation surroundings =
      (countLoad { chain with tiers := [Counted.countLoad { counted with tier } answer] } answer,
        later, answer) := by
  have asked : counted.load (CacheTier.keyFor counted.tier invocation) surroundings =
      (Counted.countLoad { counted with tier } answer, later, answer) := by
    simp only [Counted.load, loaded]
  simp only [load, single, loadFrom, asked]
  rcases answer with crash | found
  · rfl
  · cases found <;> rfl

/-- A chain of one tier saves as that tier does, and counts it. -/
theorem save_of_single
    (single : chain.tiers = [counted])
    {cached : Cached}
    {stored : Bool}
    (saved : CacheTier.save counted.tier (CacheTier.keyFor counted.tier invocation) cached
      surroundings = (tier, later, stored)) :
    chain.save invocation cached surroundings =
      (countSave { chain with tiers := [Counted.countSave { counted with tier } stored] } stored,
        later, stored) := by
  have asked : counted.save (CacheTier.keyFor counted.tier invocation) cached surroundings =
      (Counted.countSave { counted with tier } stored, later, stored) := by
    simp only [Counted.save, saved]
  simp only [save, single, saveTo, asked, Bool.or_false]

end Single

variable {chain : Chain MemoryTier} {minimum : Duration} {invocation : Invocation}
  {kept : Option Document}

/-- The chain has one tier, with a minimal cache time, and keeps the document of an
invocation in it. -/
def Keeps (chain : Chain MemoryTier) (minimum : Duration) (invocation : Invocation)
    (kept : Option Document) : Prop :=
  ∃ counted, chain.tiers = [counted] ∧ counted.tier.settings.minimalCacheTime = minimum ∧
    counted.tier.Keeps (Key.raw invocation) kept

theorem keeps_ofTiers (settings : MemoryTier.Settings) (invocation : Invocation) :
    (ofTiers [MemoryTier.new settings]).Keeps settings.minimalCacheTime invocation none :=
  ⟨_, rfl, rfl, MemoryTier.keeps_new settings (Key.raw invocation)⟩

theorem Keeps.minimalCacheTime_eq (keeps : chain.Keeps minimum invocation kept) :
    chain.minimalCacheTime = minimum := by
  obtain ⟨counted, single, same, -⟩ := keeps
  unfold Chain.minimalCacheTime
  rw [single]
  exact same

/-- A load from a chain finds what it keeps, and the chain goes on keeping it. -/
theorem Keeps.load
    (keeps : chain.Keeps minimum invocation kept)
    (surroundings : Surroundings) :
    ∃ next later found, chain.load invocation surroundings = (next, later, .ok found) ∧
      next.Keeps minimum invocation kept ∧ next.flights = chain.flights ∧
        found.map Cached.document = kept := by
  obtain ⟨counted, single, same, keptThere⟩ := keeps
  obtain ⟨tier, found, loaded, stays, sameSettings, sameDocument⟩ :=
    keptThere.loadAt surroundings.readClock.1
  refine ⟨_, _, found, load_of_single single (MemoryTier.load_of_loadAt loaded),
    ⟨_, tiers_countLoad _ _, ?_, ?_⟩, flights_countLoad _ _, sameDocument⟩
  · rw [Counted.tier_countLoad, ← same, ← sameSettings]
  · rw [Counted.tier_countLoad]
    exact stays

/-- A chain keeps a document that was saved without an expire time. -/
theorem Keeps.save
    (keeps : chain.Keeps minimum invocation kept)
    {cached : Cached}
    (lasting : cached.tag.hasExpireTime = false)
    (surroundings : Surroundings) :
    ∃ next later, chain.save invocation cached surroundings = (next, later, true) ∧
      next.Keeps minimum invocation (some cached.document) ∧ next.flights = chain.flights := by
  obtain ⟨counted, single, same, -⟩ := keeps
  refine ⟨_, _, save_of_single single rfl, ⟨_, rfl, same, ?_⟩, rfl⟩
  exact MemoryTier.keeps_saveAt lasting surroundings.readClock.1

end Chain
end FragmentCache
