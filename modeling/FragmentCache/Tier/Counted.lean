import FragmentCache.Tier

/-!
# Counted tiers

A tier together with the number of answers it gave.  A load that crashed counts as
neither a hit nor a miss.
-/

namespace FragmentCache

/-- A tier with counters. -/
structure Counted (τ : Type) where
  tier : τ
  /-- Loads that found a document. -/
  hits : Nat := 0
  /-- Loads that found none. -/
  misses : Nat := 0
  /-- Saves, whatever the tier answered. -/
  saves : Nat := 0
  /-- Saves that stored nothing. -/
  saveFailures : Nat := 0

namespace Counted

variable {τ : Type}

/-- What is reported about a tier. -/
structure Report where
  name : String
  hits : Nat
  misses : Nat
  saves : Nat
  saveFailures : Nat
  usage : Usage
  deriving DecidableEq

/-- A tier that gave no answers yet. -/
def new (tier : τ) : Counted τ := { tier }

/-- Count the answer to a load. -/
def countLoad (counted : Counted τ) : Except Crash (Option Cached) → Counted τ
  | .ok (some _) => { counted with hits := counted.hits + 1 }
  | .ok none => { counted with misses := counted.misses + 1 }
  | .error _ => counted

/-- Count the answer to a save. -/
def countSave (counted : Counted τ) (stored : Bool) : Counted τ :=
  { counted with
    saves := counted.saves + 1
    saveFailures := counted.saveFailures + if stored then 0 else 1 }

variable [CacheTier τ]

/-- Look up a fresh document. -/
def load (counted : Counted τ) (key : Key) (surroundings : Surroundings) :
    Counted τ × Surroundings × Except Crash (Option Cached) :=
  let (tier, surroundings, answer) := CacheTier.load counted.tier key surroundings
  ({ counted with tier }.countLoad answer, surroundings, answer)

/-- Store a document, and tell whether it was stored. -/
def save (counted : Counted τ) (key : Key) (cached : Cached) (surroundings : Surroundings) :
    Counted τ × Surroundings × Bool :=
  let (tier, surroundings, stored) := CacheTier.save counted.tier key cached surroundings
  ({ counted with tier }.countSave stored, surroundings, stored)

/-- Apply a configuration; the counters stay. -/
def configure (counted : Counted τ) (source : ConfigSource) (surroundings : Surroundings) :
    Counted τ × Surroundings × Except Config.Fault Unit :=
  let (tier, surroundings, answer) := CacheTier.configure counted.tier source surroundings
  ({ counted with tier }, surroundings, answer)

/-- The counters and the gauges of a tier. -/
def report (counted : Counted τ) : Report where
  name := CacheTier.name counted.tier
  hits := counted.hits
  misses := counted.misses
  saves := counted.saves
  saveFailures := counted.saveFailures
  usage := CacheTier.usage counted.tier

end Counted
end FragmentCache
