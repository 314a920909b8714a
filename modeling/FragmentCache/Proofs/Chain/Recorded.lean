import FragmentCache.Proofs.Chain.Run

/-!
# Recorded tiers

A recorded tier answers as the tier does, and writes down what it was asked.  A chain of
recorded tiers works as the chain of the tiers does, so that the records tell what a load or
a save asks of which tier.
-/

namespace FragmentCache

/-- What a tier was asked, with the tier as it was then; a load with its answer. -/
inductive TierCall (τ : Type) where
  | load (tier : τ) (key : Key) (answer : Except Crash (Option Cached))
  | save (tier : τ) (key : Key) (cached : Cached)

/-- A tier with its record. -/
structure Recorded (τ : Type) where
  tier : τ
  /-- What it was asked, the oldest first. -/
  calls : List (TierCall τ) := []

instance {τ : Type} [CacheTier τ] : CacheTier (Recorded τ) where
  name recorded := CacheTier.name recorded.tier
  minimalCacheTime recorded := CacheTier.minimalCacheTime recorded.tier
  keyFor recorded := CacheTier.keyFor recorded.tier
  load recorded key surroundings :=
    let (tier, surroundings, answer) := CacheTier.load recorded.tier key surroundings
    ({ tier, calls := recorded.calls ++ [.load recorded.tier key answer] }, surroundings, answer)
  save recorded key cached surroundings :=
    let (tier, surroundings, stored) := CacheTier.save recorded.tier key cached surroundings
    ({ tier, calls := recorded.calls ++ [.save recorded.tier key cached] }, surroundings, stored)
  usage recorded := CacheTier.usage recorded.tier
  configure recorded source surroundings :=
    let (tier, surroundings, answer) := CacheTier.configure recorded.tier source surroundings
    ({ recorded with tier }, surroundings, answer)

/-! ## Records of single tiers -/

namespace Counted

variable {τ : Type}

/-- Begin a record. -/
def recorded (counted : Counted τ) : Counted (Recorded τ) :=
  { counted with tier := { tier := counted.tier } }

/-- Leave the record out. -/
def unrecorded (counted : Counted (Recorded τ)) : Counted τ :=
  { counted with tier := counted.tier.tier }

theorem unrecorded_countLoad
    (counted : Counted (Recorded τ))
    (answer : Except Crash (Option Cached)) :
    (counted.countLoad answer).unrecorded = counted.unrecorded.countLoad answer := by
  rcases answer with crash | _ | cached <;> rfl

variable [CacheTier τ]

/-- A recorded tier answers a load like the tier itself, and records that one call. -/
theorem load_recorded (counted : Counted τ) (key : Key) (surroundings : Surroundings) :
    ∃ changed : Counted (Recorded τ),
      counted.recorded.load key surroundings = (changed, (counted.load key surroundings).2) ∧
      changed.unrecorded = (counted.load key surroundings).1 ∧
      changed.tier.calls = [.load counted.tier key (counted.load key surroundings).2.2] := by
  refine ⟨_, rfl, unrecorded_countLoad _ _, ?_⟩
  rw [tier_countLoad]
  rfl

/-- A recorded tier answers a save like the tier itself, and records that one call. -/
theorem save_recorded
    (counted : Counted τ)
    (key : Key)
    (cached : Cached)
    (surroundings : Surroundings) :
    ∃ changed : Counted (Recorded τ),
      counted.recorded.save key cached surroundings =
        (changed, (counted.save key cached surroundings).2) ∧
      changed.unrecorded = (counted.save key cached surroundings).1 ∧
      changed.tier.calls = [.save counted.tier key cached] :=
  ⟨_, rfl, rfl, rfl⟩

end Counted

/-! ## Records of a chain -/

namespace Chain

variable {τ : Type}

/-- Begin the records of all tiers. -/
def recorded (chain : Chain τ) : Chain (Recorded τ) :=
  { chain with tiers := chain.tiers.map Counted.recorded }

/-- Leave the records out. -/
def unrecorded (chain : Chain (Recorded τ)) : Chain τ :=
  { chain with tiers := chain.tiers.map Counted.unrecorded }

/-- A chain with records is the chain, with the records left out. -/
theorem unrecorded_recorded (chain : Chain τ) : chain.recorded.unrecorded = chain := by
  have same : Counted.unrecorded ∘ Counted.recorded = (id : Counted τ → Counted τ) := rfl
  rw [unrecorded, recorded, List.map_map, same, List.map_id]

theorem unrecorded_countLoad
    (chain : Chain (Recorded τ))
    (answer : Except Crash (Option Cached)) :
    (chain.countLoad answer).unrecorded = chain.unrecorded.countLoad answer := by
  rcases answer with crash | _ | cached <;> rfl

theorem unrecorded_countSave (chain : Chain (Recorded τ)) (stored : Bool) :
    (chain.countSave stored).unrecorded = chain.unrecorded.countSave stored := by
  cases stored <;> rfl

/-- What the tiers were asked, each with its place. -/
def callsFrom (place : Nat) (tiers : List (Counted (Recorded τ))) : List (Nat × TierCall τ) :=
  (tiers.zipIdx place).flatMap fun (counted, place) => counted.tier.calls.map (Prod.mk place)

theorem callsFrom_cons
    (place : Nat)
    (counted : Counted (Recorded τ))
    (rest : List (Counted (Recorded τ))) :
    callsFrom place (counted :: rest) =
      counted.tier.calls.map (Prod.mk place) ++ callsFrom (place + 1) rest := rfl

/-- Nothing was asked of tiers whose record begins. -/
theorem callsFrom_recorded (place : Nat) (tiers : List (Counted τ)) :
    callsFrom place (tiers.map Counted.recorded) = [] := by
  induction tiers generalizing place with
  | nil => rfl
  | cons counted rest inductionHypothesis =>
      rw [List.map_cons, callsFrom_cons, inductionHypothesis]
      rfl

/-- What a chain asked of its tiers. -/
def calls (chain : Chain (Recorded τ)) : List (Nat × TierCall τ) := callsFrom 0 chain.tiers

/-- The records of a chain begin empty. -/
theorem calls_recorded (chain : Chain τ) : chain.recorded.calls = [] :=
  callsFrom_recorded 0 chain.tiers

variable [CacheTier τ]

/-- Loads that miss in tier after tier. -/
def missesFrom (invocation : Invocation) (place : Nat) (tiers : List τ) :
    List (Nat × TierCall τ) :=
  (tiers.zipIdx place).map fun (tier, place) =>
    (place, .load tier (CacheTier.keyFor tier invocation) (.ok none))

/-- Saves to tier after tier. -/
def savesFrom (invocation : Invocation) (cached : Cached) (place : Nat) (tiers : List τ) :
    List (Nat × TierCall τ) :=
  (tiers.zipIdx place).map fun (tier, place) =>
    (place, .save tier (CacheTier.keyFor tier invocation) cached)

/-- What a load asks: each tier in order, up to the first one that does not miss. -/
inductive Asks (invocation : Invocation) (place : Nat) :
    List τ → List (Nat × TierCall τ) → Except Crash (Option Cached) → Prop where
  | missed {tiers : List τ} :
      Asks invocation place tiers (missesFrom invocation place tiers) (.ok none)
  | stopped (before after : List τ) (tier : τ) {reply : Except Crash (Option Cached)}
      (stops : asksNext reply = false) :
      Asks invocation place (before ++ tier :: after)
        (missesFrom invocation place before ++
          [(place + before.length, .load tier (CacheTier.keyFor tier invocation) reply)])
        reply

theorem Asks.cons
    {invocation : Invocation}
    {place : Nat}
    {rest : List τ}
    {calls : List (Nat × TierCall τ)}
    {reply : Except Crash (Option Cached)}
    (tier : τ)
    (asks : Asks invocation (place + 1) rest calls reply) :
    Asks invocation place (tier :: rest)
      ((place, .load tier (CacheTier.keyFor tier invocation) (.ok none)) :: calls) reply := by
  cases asks with
  | missed => exact .missed
  | stopped before after last stops =>
      have next : place + 1 + before.length = place + (tier :: before).length := by
        rw [List.length_cons]
        omega
      rw [next]
      exact .stopped (tier :: before) after last stops

/-- Recorded tiers are asked like the tiers themselves, in their order up to an answer. -/
theorem loadFrom_recorded
    (invocation : Invocation)
    (place : Nat)
    (tiers : List (Counted τ))
    (surroundings : Surroundings) :
    ∃ asked : List (Counted (Recorded τ)),
      loadFrom invocation (tiers.map Counted.recorded) surroundings =
        (asked, (loadFrom invocation tiers surroundings).2) ∧
      asked.map Counted.unrecorded = (loadFrom invocation tiers surroundings).1 ∧
      Asks invocation place (tiers.map Counted.tier) (callsFrom place asked)
        (loadFrom invocation tiers surroundings).2.2 := by
  induction tiers generalizing place surroundings with
  | nil => exact ⟨[], rfl, rfl, .missed⟩
  | cons counted rest inductionHypothesis =>
      let key := CacheTier.keyFor counted.tier invocation
      obtain ⟨changed, loaded, same, calls⟩ := counted.load_recorded key surroundings
      rcases asked : counted.load key surroundings with ⟨next, between, reply⟩
      rw [asked] at loaded same calls
      cases stops : asksNext reply with
      | false =>
          -- The tiers behind are not asked, so that their records stay empty.
          refine ⟨changed :: rest.map Counted.recorded, ?_⟩
          rw [List.map_cons, loadFrom_of_stop loaded stops, loadFrom_of_stop asked stops,
            callsFrom_cons, callsFrom_recorded, calls]
          refine ⟨rfl, ?_, .stopped [] (rest.map Counted.tier) counted.tier stops⟩
          rw [List.map_cons, same, List.map_map]
          exact congrArg (next :: ·) (List.map_id rest)
      | true =>
          obtain rfl := eq_miss_of_asksNext stops
          obtain ⟨others, restLoaded, restSame, asks⟩ := inductionHypothesis (place + 1) between
          refine ⟨changed :: others, ?_⟩
          rw [List.map_cons, loadFrom_of_miss loaded, loadFrom_of_miss asked, restLoaded,
            callsFrom_cons, calls]
          refine ⟨rfl, ?_, asks.cons counted.tier⟩
          rw [List.map_cons, same, restSame]

/-- Every recorded tier is told to save, like the tiers themselves. -/
theorem saveTo_recorded
    (invocation : Invocation)
    (cached : Cached)
    (place : Nat)
    (tiers : List (Counted τ))
    (surroundings : Surroundings) :
    ∃ told : List (Counted (Recorded τ)),
      saveTo invocation cached (tiers.map Counted.recorded) surroundings =
        (told, (saveTo invocation cached tiers surroundings).2) ∧
      told.map Counted.unrecorded = (saveTo invocation cached tiers surroundings).1 ∧
      callsFrom place told = savesFrom invocation cached place (tiers.map Counted.tier) := by
  induction tiers generalizing place surroundings with
  | nil => exact ⟨[], rfl, rfl, rfl⟩
  | cons counted rest inductionHypothesis =>
      let key := CacheTier.keyFor counted.tier invocation
      obtain ⟨changed, saved, same, calls⟩ := counted.save_recorded key cached surroundings
      rcases asked : counted.save key cached surroundings with ⟨next, between, stored⟩
      rw [asked] at saved same
      obtain ⟨others, restSaved, restSame, restCalls⟩ := inductionHypothesis (place + 1) between
      rcases restAsked : saveTo invocation cached rest between with ⟨restNext, later, storedLater⟩
      rw [restAsked] at restSaved restSame
      refine ⟨changed :: others, ?_⟩
      rw [List.map_cons, saveTo_of_save saved restSaved, saveTo_of_save asked restAsked,
        callsFrom_cons, calls, restCalls]
      refine ⟨rfl, ?_, rfl⟩
      rw [List.map_cons, same, restSame]

/-- A load asks the same of recorded tiers, and their records tell what it asks. -/
theorem load_recorded (chain : Chain τ) (invocation : Invocation) (surroundings : Surroundings) :
    ∃ asked : Chain (Recorded τ),
      chain.recorded.load invocation surroundings =
        (asked, (chain.load invocation surroundings).2) ∧
      asked.unrecorded = (chain.load invocation surroundings).1 ∧
      Asks invocation 0 (chain.tiers.map Counted.tier) asked.calls
        (chain.load invocation surroundings).2.2 := by
  obtain ⟨asked, loaded, same, asks⟩ := loadFrom_recorded invocation 0 chain.tiers surroundings
  rw [load, load, recorded, loaded]
  refine ⟨_, rfl, ?_, ?_⟩
  · rw [unrecorded_countLoad, unrecorded]
    dsimp only
    rw [same]
  · rw [calls, tiers_countLoad]
    exact asks

/-- A save asks the same of recorded tiers, and their records tell what it asks. -/
theorem save_recorded
    (chain : Chain τ)
    (invocation : Invocation)
    (cached : Cached)
    (surroundings : Surroundings) :
    ∃ told : Chain (Recorded τ),
      chain.recorded.save invocation cached surroundings =
        (told, (chain.save invocation cached surroundings).2) ∧
      told.unrecorded = (chain.save invocation cached surroundings).1 ∧
      told.calls = savesFrom invocation cached 0 (chain.tiers.map Counted.tier) := by
  obtain ⟨told, saved, same, calls⟩ :=
    saveTo_recorded invocation cached 0 chain.tiers surroundings
  rw [save, save, recorded, saved]
  refine ⟨_, rfl, ?_, ?_⟩
  · rw [unrecorded_countSave, unrecorded]
    dsimp only
    rw [same]
  · rw [Chain.calls, tiers_countSave]
    exact calls

theorem minimalCacheTime_recorded (chain : Chain τ) :
    chain.recorded.minimalCacheTime = chain.minimalCacheTime := by
  rw [minimalCacheTime, recorded, List.map_map]
  rfl

end Chain
end FragmentCache
