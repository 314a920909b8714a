import FragmentCache.Pool.Sharded
import FragmentCache.Tier

/-!
# Memory tier

Documents held in sharded pools under their key texts.
-/

namespace FragmentCache

namespace MemoryTier

/-- Settings of a memory tier. -/
structure Settings where
  /-- Number of pools. -/
  pools : Nat := 16
  /-- Capacity of each pool; zero for any number of entries. -/
  poolSize : Nat := 128
  /-- Shortest cache time worth storing. -/
  minimalCacheTime : Duration := .seconds 5
  deriving DecidableEq, Inhabited

/-- The settings configured in a section. -/
def Settings.ofSource (source : ConfigSource) (sectionPath : String) : Settings :=
  let defaults : Settings := {}
  { pools := source.wordOr (sectionPath ++ "/pools") defaults.pools
    poolSize := source.wordOr (sectionPath ++ "/pool-size") defaults.poolSize
    minimalCacheTime :=
      source.secondsOr (sectionPath ++ "/min-cache-time") defaults.minimalCacheTime }

/-- Section of a configuration that holds the settings. -/
def configSection : String := "/cache/memory"

end MemoryTier

/-- A tier in memory. -/
structure MemoryTier where
  settings : MemoryTier.Settings
  pool : ShardedPool
  /-- Loads answered by telling the caller to refresh. -/
  prefetches : Nat := 0

namespace MemoryTier

/-- The empty tier with given settings. -/
def new (settings : Settings) : MemoryTier where
  settings
  pool := .new settings.pools settings.poolSize

/-- Load the document of a key at `now`. -/
def loadAt (tier : MemoryTier) (key : Key) (now : Timestamp) :
    Except Crash (MemoryTier × Option Cached) :=
  (tier.pool.load key.storageId now).map fun (pool, answer) =>
    let signals := if answer = .needPrefetch then 1 else 0
    ({ tier with pool, prefetches := tier.prefetches + signals }, answer.hit?)

/-- Save a document under a key at `now`; this never fails. -/
def saveAt (tier : MemoryTier) (key : Key) (cached : Cached) (now : Timestamp) :
    MemoryTier × Bool :=
  ({ tier with pool := tier.pool.save key.storageId cached now }, true)

/-- Remove all entries. -/
def clear (tier : MemoryTier) : MemoryTier := { tier with pool := tier.pool.clear }

/-- Apply a configuration; other settings than before start from an empty tier. -/
def configured (tier : MemoryTier) (source : ConfigSource) : MemoryTier :=
  let settings := Settings.ofSource source configSection
  if settings = tier.settings then tier else new settings

instance : CacheTier MemoryTier where
  name _ := "Memory"
  minimalCacheTime tier := tier.settings.minimalCacheTime
  keyFor _ := Key.raw
  load tier key surroundings :=
    let (now, surroundings) := surroundings.readClock
    match tier.loadAt key now with
    | .ok (loaded, hit) => (loaded, surroundings, .ok hit)
    | .error crash => (tier, surroundings, .error crash)
  save tier key cached surroundings :=
    let (now, surroundings) := surroundings.readClock
    let (saved, stored) := tier.saveAt key cached now
    (saved, surroundings, stored)
  usage tier := tier.pool.usage
  configure tier source surroundings := (tier.configured source, surroundings, .ok ())

end MemoryTier
end FragmentCache
