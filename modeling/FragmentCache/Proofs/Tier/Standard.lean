import FragmentCache.Proofs.Tier.Disk.Ledger
import FragmentCache.Tier.Standard

/-!
# Loads and saves of standard tiers

A load or a save of a standard tier takes one reading of the clock, and is done at that
time by the tier in memory or of files.
-/

namespace FragmentCache
namespace StandardTier

variable {memory : MemoryTier} {disk : DiskTier} {invocation : Invocation}
  {surroundings : Surroundings}

theorem keyFor_memory (memory : MemoryTier) (invocation : Invocation) :
    CacheTier.keyFor (StandardTier.memory memory) invocation = Key.raw invocation :=
  rfl

theorem keyFor_disk (disk : DiskTier) (invocation : Invocation) :
    CacheTier.keyFor (StandardTier.disk disk) invocation = CacheTier.keyFor disk invocation :=
  rfl

/-- A memory tier crashes where its pool does. -/
theorem load_memory_of_crash
    {crash : Crash}
    (crashed : memory.pool.load invocation.keyText surroundings.readClock.1 = .error crash) :
    CacheTier.load (StandardTier.memory memory)
        (CacheTier.keyFor (StandardTier.memory memory) invocation) surroundings =
      (.memory memory, surroundings.readClock.2, .error crash) := by
  have loaded : memory.loadAt (Key.raw invocation) surroundings.readClock.1 = .error crash := by
    rw [MemoryTier.loadAt, Key.raw_storageId, crashed]
    rfl
  rw [keyFor_memory]
  simp only [CacheTier.load, loaded]

/-- A memory tier answers what its pool finds. -/
theorem load_memory_of_load
    {pool : ShardedPool}
    {answer : Pool.Answer}
    (asked : memory.pool.load invocation.keyText surroundings.readClock.1 = .ok (pool, answer)) :
    ∃ next, CacheTier.load (StandardTier.memory memory)
          (CacheTier.keyFor (StandardTier.memory memory) invocation) surroundings =
        (.memory next, surroundings.readClock.2, .ok answer.hit?) ∧ next.pool = pool := by
  let next : MemoryTier := {
    memory with pool, prefetches := memory.prefetches + if answer = .needPrefetch then 1 else 0 }
  have loaded : memory.loadAt (Key.raw invocation) surroundings.readClock.1 =
      .ok (next, answer.hit?) := by
    rw [MemoryTier.loadAt, Key.raw_storageId, asked]
    rfl
  rw [keyFor_memory]
  exact ⟨next, by simp only [CacheTier.load, loaded], rfl⟩

theorem save_memory (cached : Cached) :
    CacheTier.save (StandardTier.memory memory)
        (CacheTier.keyFor (StandardTier.memory memory) invocation) cached surroundings =
      (.memory (memory.saveAt (Key.raw invocation) cached surroundings.readClock.1).1,
        surroundings.readClock.2, true) :=
  rfl

variable {site : DiskTier.Site} {verdict : DiskTier.Verdict}

/-- A disk tier crashes where its judgement does. -/
theorem load_disk_of_crash
    (at_ : disk.At site)
    (tidy : site.Tidy surroundings.files)
    {crash : Crash}
    (crashed : DiskTier.judge invocation.keyText surroundings.readClock.1
      (surroundings.files.contentAt? (site.place invocation.keyText)) = .error crash) :
    CacheTier.load (StandardTier.disk disk)
        (CacheTier.keyFor (StandardTier.disk disk) invocation) surroundings =
      (.disk disk, surroundings.readClock.2, .error crash) := by
  have loaded : disk.loadAt (CacheTier.keyFor disk invocation) surroundings.readClock.1
      surroundings.readClock.2.files = .error crash := by
    change disk.loadAt _ _ surroundings.files = _
    rw [at_.loadAt tidy, crashed]
    rfl
  rw [keyFor_disk]
  simp only [CacheTier.load, loaded]

/-- A disk tier answers and acts as it judges the bytes at its place. -/
theorem load_disk_of_judge
    (at_ : disk.At site)
    (tidy : site.Tidy surroundings.files)
    (judged : DiskTier.judge invocation.keyText surroundings.readClock.1
      (surroundings.files.contentAt? (site.place invocation.keyText)) = .ok verdict) :
    CacheTier.load (StandardTier.disk disk)
        (CacheTier.keyFor (StandardTier.disk disk) invocation) surroundings =
      (.disk (disk.count verdict), { surroundings.readClock.2 with
        files := DiskTier.act surroundings.files (site.path invocation.keyText) verdict },
        .ok verdict.hit?) := by
  have loaded : disk.loadAt (CacheTier.keyFor disk invocation) surroundings.readClock.1
      surroundings.readClock.2.files = .ok (disk.count verdict,
        DiskTier.act surroundings.files (site.path invocation.keyText) verdict, verdict.hit?) := by
    change disk.loadAt _ _ surroundings.files = _
    rw [at_.loadAt tidy, judged]
    rfl
  rw [keyFor_disk]
  simp only [CacheTier.load, loaded]

/-- A disk tier takes a reading and a number for its save. -/
theorem save_disk_of_saveAt
    {cached : Cached}
    {saved : DiskTier}
    {files : FileTree}
    {stored : Bool}
    (done : disk.saveAt (CacheTier.keyFor disk invocation) cached surroundings.readClock.1
      surroundings.numbersTaken surroundings.files = (saved, files, stored)) :
    CacheTier.save (StandardTier.disk disk)
        (CacheTier.keyFor (StandardTier.disk disk) invocation) cached surroundings =
      (.disk saved, { surroundings.readClock.2.freshNumber.2 with files }, stored) := by
  rw [keyFor_disk]
  simp only [CacheTier.save, Surroundings.readClock, Surroundings.freshNumber] at done ⊢
  rw [done]

end StandardTier
end FragmentCache
