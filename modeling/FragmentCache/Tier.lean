import FragmentCache.Cached
import FragmentCache.Config
import FragmentCache.FileTree
import FragmentCache.Key

/-!
# Tiers

A tier is one place that documents are cached in.  It absorbs its own failures: a
load that fails is a miss, a save that fails stores nothing.  Tiers share their
surroundings, which are the files, the clock and a supply of fresh numbers.
-/

namespace FragmentCache

/-- What tiers share. -/
structure Surroundings where
  /-- Files below the working directory. -/
  files : FileTree := .empty
  /-- Successive readings of the clock. -/
  readings : Nat → Timestamp := fun _ => Timestamp.undefined
  /-- Readings taken so far. -/
  readingsTaken : Nat := 0
  /-- Fresh numbers taken so far. -/
  numbersTaken : Nat := 0

namespace Surroundings

instance : Inhabited Surroundings := ⟨{}⟩

/-- Surroundings whose clock stands still. -/
def frozenAt (surroundings : Surroundings) (now : Timestamp) : Surroundings :=
  { surroundings with readings := fun _ => now }

/-- Read the clock. -/
def readClock (surroundings : Surroundings) : Timestamp × Surroundings :=
  (surroundings.readings surroundings.readingsTaken,
    { surroundings with readingsTaken := surroundings.readingsTaken + 1 })

/-- Take a fresh number. -/
def freshNumber (surroundings : Surroundings) : Nat × Surroundings :=
  (surroundings.numbersTaken,
    { surroundings with numbersTaken := surroundings.numbersTaken + 1 })

end Surroundings

/-- The operations of a tier.  Each answers with the tier and the surroundings as it
leaves them. -/
class CacheTier (τ : Type) where
  /-- Name in reports. -/
  name : τ → String
  /-- Shortest cache time worth storing. -/
  minimalCacheTime : τ → Duration
  /-- Key of an invocation. -/
  keyFor : τ → Invocation → Key
  /-- Look up a fresh document. -/
  load : τ → Key → Surroundings → τ × Surroundings × Except Crash (Option Cached)
  /-- Store a document, and tell whether it was stored. -/
  save : τ → Key → Cached → Surroundings → τ × Surroundings × Bool
  /-- Gauges. -/
  usage : τ → Usage := fun _ => {}
  /-- Apply a configuration. -/
  configure : τ → ConfigSource → Surroundings →
      τ × Surroundings × Except Config.Fault Unit :=
    fun tier _ surroundings => (tier, surroundings, .ok ())

end FragmentCache
