import FragmentCache.Tier.Disk
import FragmentCache.Tier.Memory

/-!
# Standard tiers

The tiers that a configuration can name.
-/

namespace FragmentCache

/-- A tier in memory or of files. -/
inductive StandardTier where
  | memory (tier : MemoryTier)
  | disk (tier : DiskTier)

namespace StandardTier

instance : CacheTier StandardTier where
  name
    | memory tier => CacheTier.name tier
    | disk tier => CacheTier.name tier
  minimalCacheTime
    | memory tier => CacheTier.minimalCacheTime tier
    | disk tier => CacheTier.minimalCacheTime tier
  keyFor
    | memory tier => CacheTier.keyFor tier
    | disk tier => CacheTier.keyFor tier
  load
    | memory tier, key, surroundings =>
      let (tier, surroundings, answer) := CacheTier.load tier key surroundings
      (memory tier, surroundings, answer)
    | disk tier, key, surroundings =>
      let (tier, surroundings, answer) := CacheTier.load tier key surroundings
      (disk tier, surroundings, answer)
  save
    | memory tier, key, cached, surroundings =>
      let (tier, surroundings, stored) := CacheTier.save tier key cached surroundings
      (memory tier, surroundings, stored)
    | disk tier, key, cached, surroundings =>
      let (tier, surroundings, stored) := CacheTier.save tier key cached surroundings
      (disk tier, surroundings, stored)
  usage
    | memory tier => CacheTier.usage tier
    | disk tier => CacheTier.usage tier
  configure
    | memory tier, source, surroundings =>
      let (tier, surroundings, answer) := CacheTier.configure tier source surroundings
      (memory tier, surroundings, answer)
    | disk tier, source, surroundings =>
      let (tier, surroundings, answer) := CacheTier.configure tier source surroundings
      (disk tier, surroundings, answer)

end StandardTier
end FragmentCache
