import FragmentCache.Chain.Flights
import FragmentCache.Tier.Counted

/-!
# Chains of tiers

A load asks the tiers one after the other and ends with the first hit, which is not
copied into the tiers before.  A save asks every tier and succeeds when one of them
stored the document.
-/

namespace FragmentCache

/-- Tiers in order, with counters of what was asked of all of them. -/
structure Chain (τ : Type) where
  tiers : List (Counted τ) := []
  /-- Loads. -/
  requests : Nat := 0
  /-- Loads that a tier answered with a document. -/
  hits : Nat := 0
  /-- Loads that no tier answered with a document. -/
  misses : Nat := 0
  /-- Saves that some tier stored. -/
  saves : Nat := 0
  /-- Saves that no tier stored. -/
  saveFailures : Nat := 0
  /-- Documents being computed. -/
  flights : Flights := {}

namespace Chain

variable {τ : Type}

/-- Counters of a chain. -/
structure Stats where
  requests : Nat
  hits : Nat
  misses : Nat
  saves : Nat
  saveFailures : Nat
  /-- Percentage of loads that were hits. -/
  hitRate : Float
  /-- Keys whose document is being computed. -/
  inFlight : Nat
  /-- Number of tiers. -/
  tiers : Nat

/-- Percentage of hits, each step rounded to a binary number. -/
def hitRate (hits requests : Nat) : Float :=
  if requests = 0 then 0.0
  else (UInt64.ofNat hits).toFloat / (UInt64.ofNat requests).toFloat * 100.0

/-- The counters of a chain. -/
def stats (chain : Chain τ) : Stats where
  requests := chain.requests
  hits := chain.hits
  misses := chain.misses
  saves := chain.saves
  saveFailures := chain.saveFailures
  hitRate := hitRate chain.hits chain.requests
  inFlight := chain.flights.size
  tiers := chain.tiers.length

/-- A chain of unused tiers. -/
def ofTiers (tiers : List τ) : Chain τ := { tiers := tiers.map Counted.new }

variable [CacheTier τ]

/-- Names of the tiers in order. -/
def names (chain : Chain τ) : List String :=
  chain.tiers.map fun counted => CacheTier.name counted.tier

/-- Shortest cache time that some tier finds worth storing; zero without tiers. -/
def minimalCacheTime (chain : Chain τ) : Duration :=
  (chain.tiers.map fun counted => CacheTier.minimalCacheTime counted.tier).min?.getD .zero

/-- Ask tiers one after the other, up to the first hit. -/
def loadFrom (invocation : Invocation) : List (Counted τ) → Surroundings →
    List (Counted τ) × Surroundings × Except Crash (Option Cached)
  | [], surroundings => ([], surroundings, .ok none)
  | counted :: rest, surroundings =>
    let key := CacheTier.keyFor counted.tier invocation
    match counted.load key surroundings with
    | (counted, surroundings, .ok none) =>
      let (rest, surroundings, answer) := loadFrom invocation rest surroundings
      (counted :: rest, surroundings, answer)
    | (counted, surroundings, answer) => (counted :: rest, surroundings, answer)

/-- Count the answer to a load. -/
def countLoad (chain : Chain τ) (answer : Except Crash (Option Cached)) : Chain τ :=
  let asked := { chain with requests := chain.requests + 1 }
  match answer with
  | .ok (some _) => { asked with hits := asked.hits + 1 }
  | .ok none => { asked with misses := asked.misses + 1 }
  | .error _ => asked

/-- The first hit in the order of the tiers. -/
def load (chain : Chain τ) (invocation : Invocation) (surroundings : Surroundings) :
    Chain τ × Surroundings × Except Crash (Option Cached) :=
  let (tiers, surroundings, answer) := loadFrom invocation chain.tiers surroundings
  ({ chain with tiers }.countLoad answer, surroundings, answer)

/-- Ask every tier to store a document; the answer says whether one did. -/
def saveTo (invocation : Invocation) (cached : Cached) : List (Counted τ) → Surroundings →
    List (Counted τ) × Surroundings × Bool
  | [], surroundings => ([], surroundings, false)
  | counted :: rest, surroundings =>
    let key := CacheTier.keyFor counted.tier invocation
    let (counted, surroundings, stored) := counted.save key cached surroundings
    let (rest, surroundings, storedLater) := saveTo invocation cached rest surroundings
    (counted :: rest, surroundings, stored || storedLater)

/-- Count the answer to a save. -/
def countSave (chain : Chain τ) (stored : Bool) : Chain τ :=
  if stored then { chain with saves := chain.saves + 1 }
  else { chain with saveFailures := chain.saveFailures + 1 }

/-- Store a document in every tier, and tell whether one stored it. -/
def save (chain : Chain τ) (invocation : Invocation) (cached : Cached)
    (surroundings : Surroundings) : Chain τ × Surroundings × Bool :=
  let (tiers, surroundings, stored) := saveTo invocation cached chain.tiers surroundings
  ({ chain with tiers }.countSave stored, surroundings, stored)

/-- The counters of every tier in order. -/
def reports (chain : Chain τ) : List Counted.Report := chain.tiers.map Counted.report

end Chain
end FragmentCache
