import FragmentCache.Block.Call
import FragmentCache.Proofs.Block.Storing
import FragmentCache.Proofs.Chain.Recorded

/-!
# Observed steps

A step of a call is observed through recorded tiers and a block that writes down its work.
Recording changes neither where the call goes nor what it leaves behind, and the records tell
what the step asked of which tier and what it worked on.
-/

namespace FragmentCache
namespace Block

variable {τ σ : Type}

/-! ## Observation -/

/-- The state of the work, with the work that was done. -/
structure Diary (σ : Type) where
  work : σ
  /-- Requests and what came of them, the oldest first. -/
  executions : List (Request × Outcome) := []

/-- A block that writes down its work. -/
def recorded (block : Block σ) : Block (Diary σ) :=
  { block with
    execute := fun diary request =>
      let (work, run) := block.execute diary.work request
      ({ work, executions := diary.executions ++ [(request, run.outcome)] }, run) }

/-- Begin all records. -/
def Shared.recorded (shared : Shared τ σ) : Shared (Recorded τ) (Diary σ) where
  chain := shared.chain.recorded
  surroundings := shared.surroundings
  work := { work := shared.work }

/-- Leave the records out. -/
def Shared.unrecorded (shared : Shared (Recorded τ) (Diary σ)) : Shared τ σ where
  chain := shared.chain.unrecorded
  surroundings := shared.surroundings
  work := shared.work.work

namespace Call

open Flights (CallerId)

/-- What can be observed of a call. -/
inductive Deed (τ : Type) where
  /-- The tier at a place was asked. -/
  | asked (place : Nat) (call : TierCall τ)
  | executed (request : Request) (outcome : Outcome)

namespace Deed

/-- What a tier was asked, as deeds. -/
def ofCalls (calls : List (Nat × TierCall τ)) : List (Deed τ) :=
  calls.map fun (place, call) => asked place call

/-- The call of a tier. -/
def call? : Deed τ → Option (TierCall τ)
  | asked _ call => some call
  | _ => none

/-- What a load found. -/
def hit? : Deed τ → Option Cached
  | asked _ (.load _ _ (.ok found)) => found
  | _ => none

/-- Place of a tier that was asked to save. -/
def savedAt? : Deed τ → Option Nat
  | asked place (.save _ _ _) => some place
  | _ => none

/-- The work that was done. -/
def execution? : Deed τ → Option (Request × Outcome)
  | executed request outcome => some (request, outcome)
  | _ => none

end Deed

/-- Deeds that the records tell of. -/
def deeds (shared : Shared (Recorded τ) (Diary σ)) : List (Deed τ) :=
  Deed.ofCalls shared.chain.calls ++
    shared.work.executions.map fun (request, outcome) => .executed request outcome

variable [CacheTier τ]

/-- The next step of a call, with what is observed of it. -/
def stepSeen? (block : Block σ) (request : Request) (stage : Stage) (shared : Shared τ σ) :
    Option (List (Deed τ) × Stage × Shared τ σ) :=
  (step? block.recorded request stage shared.recorded).map fun (next, after) =>
    (deeds after, next, after.unrecorded)

/-! ## Kinds of deeds -/

/-- Loads in the order of the tiers, up to the first one that does not miss. -/
inductive Finds (invocation : Invocation) : List τ → List (Deed τ) → Answer → Prop where
  | hit (before after : List τ) (tier : τ) (cached : Cached) :
      Finds invocation (before ++ tier :: after)
        (Deed.ofCalls (Chain.missesFrom invocation 0 before) ++
          [.asked before.length
            (.load tier (CacheTier.keyFor tier invocation) (.ok (some cached)))])
        (.ok (.ok cached.document))
  | crash (before after : List τ) (tier : τ) (crash : Crash) :
      Finds invocation (before ++ tier :: after)
        (Deed.ofCalls (Chain.missesFrom invocation 0 before) ++
          [.asked before.length (.load tier (CacheTier.keyFor tier invocation) (.error crash))])
        (.error crash)

/-- Saves of a document that was made, to each tier once, with the tag that it is worth
storing with. -/
inductive Stores (block : Block σ) (request : Request) (made : Cached) (shared : Shared τ σ) :
    List (Deed τ) → Prop where
  | toAll {tag : Tag}
      (worthy : shouldStoreAt block.policy.cacheTime? shared.chain.minimalCacheTime made.tag
        shared.surroundings.readClock.1 = (true, tag))
      (filled : tag = made.tag ∨ made.tag.expireTime = Timestamp.undefined ∧
        tag = { made.tag with expireTime := tag.expireTime }) :
      Stores block request made shared (Deed.ofCalls
        (Chain.savesFrom (block.invocation request) { made with tag } 0
          (shared.chain.tiers.map Counted.tier)))

/-! ## Records of a step -/

section Records

/-- Recording changes nothing about whether a block is skipped. -/
theorem skipReason?_recorded {τ : Type} (block : Block σ) (chain : Chain τ) :
    block.recorded.skipReason? chain.recorded = block.skipReason? chain := by
  rw [skipReason?, skipReason?, Chain.recorded, List.isEmpty_map]
  rfl

/-- What is recorded is what is shared with records beside it. -/
theorem unrecorded_recorded {τ : Type} (shared : Shared τ σ) :
    shared.recorded.unrecorded = shared := by
  rw [Shared.unrecorded, Shared.recorded, Chain.unrecorded_recorded]

/-- Nothing was done when all records begin, whatever the flights are. -/
theorem deeds_mapFlights {τ : Type} (shared : Shared τ σ) (change : Flights → Flights) :
    deeds (mapFlights shared.recorded change) = [] := by
  change Deed.ofCalls shared.chain.recorded.calls ++ [] = []
  rw [Chain.calls_recorded]
  rfl

theorem unrecorded_mapFlights {τ : Type} (shared : Shared τ σ) (change : Flights → Flights) :
    (mapFlights shared.recorded change).unrecorded = mapFlights shared change := by
  change mapFlights shared.recorded.unrecorded change = _
  rw [unrecorded_recorded]

/-- Without work done, the deeds are those of the tiers. -/
theorem deeds_of_idle
    {τ : Type}
    (chain : Chain (Recorded τ))
    (surroundings : Surroundings)
    (work : σ) :
    deeds { chain, surroundings, work := { work } } = Deed.ofCalls chain.calls :=
  List.append_nil _

/-- What a load asks by its reply. -/
theorem asks_cases
    {invocation : Invocation}
    {tiers : List τ}
    {calls : List (Nat × TierCall τ)}
    {reply : Except Crash (Option Cached)}
    (asks : Chain.Asks invocation 0 tiers calls reply) :
    (reply = .ok none ∧ calls = Chain.missesFrom invocation 0 tiers) ∨
    (∃ cached, reply = .ok (some cached) ∧
      Finds invocation tiers (Deed.ofCalls calls) (.ok (.ok cached.document))) ∨
    (∃ crash, reply = .error crash ∧
      Finds invocation tiers (Deed.ofCalls calls) (.error crash)) := by
  cases asks with
  | missed => exact .inl ⟨rfl, rfl⟩
  | @stopped before after tier reply stops =>
      rw [Deed.ofCalls, List.map_append, Nat.zero_add]
      rcases reply with crash | _ | cached
      · exact .inr (.inr ⟨crash, rfl, .crash before after tier crash⟩)
      · cases stops
      · exact .inr (.inl ⟨cached, rfl, .hit before after tier cached⟩)

/-- Storing asks nothing, or to save what is worth storing. -/
theorem store_recorded
    (block : Block σ)
    (request : Request)
    (made : Cached)
    (shared : Shared τ σ) :
    ∃ told : Chain (Recorded τ),
      block.recorded.store shared.chain.recorded (block.invocation request) made
          shared.surroundings =
        (told, (block.store shared.chain (block.invocation request) made
          shared.surroundings).2) ∧
      told.unrecorded =
        (block.store shared.chain (block.invocation request) made shared.surroundings).1 ∧
      (told.calls = [] ∨ Stores block request made shared (Deed.ofCalls told.calls)) := by
  have minimum := shared.chain.minimalCacheTime_recorded
  rcases decided : shouldStoreAt block.policy.cacheTime? shared.chain.minimalCacheTime made.tag
    shared.surroundings.readClock.1 with ⟨worth, tag⟩
  have asBefore : shouldStoreAt block.recorded.policy.cacheTime?
      shared.chain.recorded.minimalCacheTime made.tag shared.surroundings.readClock.1 =
        (worth, tag) := by
    rw [minimum]
    exact decided
  simp only [store, decided, asBefore]
  cases worth with
  | false =>
      exact ⟨shared.chain.recorded, rfl, shared.chain.unrecorded_recorded,
        .inl shared.chain.calls_recorded⟩
  | true =>
      obtain ⟨told, saved, same, calls⟩ := shared.chain.save_recorded (block.invocation request)
        { made with tag } shared.surroundings.readClock.2
      refine ⟨told, ?_, same, .inr ?_⟩
      · dsimp only
        rw [saved]
      · rw [calls]
        exact .toAll decided (filled_of_worthy decided)

end Records

variable {block : Block σ} {request : Request}
  {stage next : Stage} {shared after : Shared τ σ}
  {seen : List (Deed τ)}

/-- What a step shows when it finds something shared: from which stage it goes to which one,
and the deeds. -/
inductive Shows (block : Block σ) (request : Request) (shared : Shared τ σ) :
    Stage → List (Deed τ) → Stage → Prop where
  | skipped (past : block.skipReason? shared.chain ≠ none) :
      Shows block request shared .asking [] (.starting none)
  | found {loads : List (Deed τ)} {answer : Answer}
      (uses : block.skipReason? shared.chain = none)
      (finds : Finds (block.invocation request) (shared.chain.tiers.map Counted.tier) loads
        answer) :
      Shows block request shared .asking loads (.finished answer)
  | missed (uses : block.skipReason? shared.chain = none) :
      Shows block request shared .asking
        (Deed.ofCalls (Chain.missesFrom (block.invocation request) 0
          (shared.chain.tiers.map Counted.tier)))
        .arriving
  | entered (caller : CallerId) (contended : Bool) :
      Shows block request shared .arriving [] (.waiting caller contended)
  | acquired (caller : CallerId) (contended : Bool) :
      Shows block request shared (.waiting caller contended) []
        (if contended then .rechecking caller else .starting (some caller))
  | foundAgain {loads : List (Deed τ)} {answer : Answer} (caller : CallerId)
      (finds : Finds (block.invocation request) (shared.chain.tiers.map Counted.tier) loads
        answer) :
      Shows block request shared (.rechecking caller) loads (.releasing caller answer)
  | missedAgain (caller : CallerId) :
      Shows block request shared (.rechecking caller)
        (Deed.ofCalls (Chain.missesFrom (block.invocation request) 0
          (shared.chain.tiers.map Counted.tier)))
        (.starting (some caller))
  | started (caller : Option CallerId) (run : Run) :
      Shows block request shared (.starting caller) [.executed request run.outcome]
        (.running caller run)
  | ended (run : Run) :
      Shows block request shared (.running none run) [] (.finished run.outcome.answer)
  | endedUnstored (caller : CallerId) (run : Run) :
      Shows block request shared (.running (some caller) run) []
        (.releasing caller run.outcome.answer)
  | endedStored {saves : List (Deed τ)} {run : Run} {made : Cached} (caller : CallerId)
      (outcome : run.outcome = .ok (.ok made))
      (stores : Stores block request made shared saves) :
      Shows block request shared (.running (some caller) run) saves
        (.releasing caller (.ok (.ok made.document)))
  | released (caller : CallerId) (answer : Answer) :
      Shows block request shared (.releasing caller answer) [] (.sweeping caller answer)
  | swept (caller : CallerId) (answer : Answer) :
      Shows block request shared (.sweeping caller answer) [] (.departing caller answer)
  | departed (caller : CallerId) (answer : Answer) :
      Shows block request shared (.departing caller answer) [] (.finished answer)

/-- A step with records goes as the step without them, and they tell what it shows. -/
structure Mirrors (block : Block σ) (request : Request) (shared : Shared τ σ) (stage : Stage)
    (mirrored : Stage × Shared (Recorded τ) (Diary σ)) (plain : Stage × Shared τ σ) : Prop where
  reaches : mirrored.1 = plain.1
  leaves : mirrored.2.unrecorded = plain.2
  tells : Shows block request shared stage (deeds mirrored.2) plain.1

theorem mirrors_mapFlights
    (change : Flights → Flights)
    (shows : Shows block request shared stage [] next) :
    Mirrors block request shared stage (next, mapFlights shared.recorded change)
      (next, mapFlights shared change) := by
  refine ⟨rfl, unrecorded_mapFlights shared change, ?_⟩
  rw [deeds_mapFlights]
  exact shows

/-- Looking for the document first is the same with and without records. -/
theorem mirrors_ask (block : Block σ) (request : Request) (shared : Shared τ σ) :
    Mirrors block request shared .asking
      (ask block.recorded (block.invocation request) shared.recorded)
      (ask block (block.invocation request) shared) := by
  have same := skipReason?_recorded block shared.chain
  cases skips : block.skipReason? shared.chain with
  | some reason =>
      rw [skips] at same
      have past : block.skipReason? shared.chain ≠ none := by
        rw [skips]
        exact nofun
      simp only [ask, lookup, skips, Shared.recorded, same]
      exact mirrors_mapFlights id (.skipped past)
  | none =>
      rw [skips] at same
      obtain ⟨asked, loaded, sameChain, asks⟩ :=
        shared.chain.load_recorded (block.invocation request) shared.surroundings
      rcases plainly : shared.chain.load (block.invocation request) shared.surroundings with
        ⟨chain, later, reply⟩
      rw [plainly] at loaded sameChain asks
      simp only [ask, lookup, skips, Shared.recorded, same, loaded, plainly]
      refine ⟨rfl, ?_, ?_⟩
      · rw [Shared.unrecorded, sameChain]
      · rw [deeds_of_idle]
        obtain ⟨rfl, missed⟩ | ⟨cached, rfl, finds⟩ | ⟨crash, rfl, finds⟩ := asks_cases asks
        · rw [missed]
          exact .missed skips
        · exact .found skips finds
        · exact .found skips finds

/-- Looking again with the lock is the same with and without records. -/
theorem mirrors_recheck
    (block : Block σ)
    (request : Request)
    (caller : CallerId)
    (shared : Shared τ σ) :
    Mirrors block request shared (.rechecking caller)
      (recheck (block.invocation request) caller shared.recorded)
      (recheck (block.invocation request) caller shared) := by
  obtain ⟨asked, loaded, sameChain, asks⟩ :=
    shared.chain.load_recorded (block.invocation request) shared.surroundings
  rcases plainly : shared.chain.load (block.invocation request) shared.surroundings with
    ⟨chain, later, reply⟩
  rw [plainly] at loaded sameChain asks
  simp only [recheck, Shared.recorded, loaded, plainly]
  refine ⟨rfl, ?_, ?_⟩
  · rw [Shared.unrecorded, sameChain]
  · rw [deeds_of_idle]
    obtain ⟨rfl, missed⟩ | ⟨cached, rfl, finds⟩ | ⟨crash, rfl, finds⟩ := asks_cases asks
    · rw [missed]
      exact .missedAgain caller
    · exact .foundAgain caller finds
    · exact .foundAgain caller finds

/-- Starting the work records that work, and is the same otherwise. -/
theorem mirrors_start
    (block : Block σ)
    (request : Request)
    (caller : Option CallerId)
    (shared : Shared τ σ) :
    Mirrors block request shared (.starting caller)
      (start block.recorded request caller shared.recorded)
      (start block request caller shared) := by
  refine ⟨rfl, ?_, ?_⟩
  · change ({ chain := shared.chain.recorded.unrecorded, .. } : Shared τ σ) = _
    rw [Chain.unrecorded_recorded]
    rfl
  · change Shows block request shared (.starting caller)
      (Deed.ofCalls shared.chain.recorded.calls ++ _) _
    rw [Chain.calls_recorded]
    exact .started caller _

/-- Ending the work records what is stored, and is the same otherwise. -/
theorem mirrors_conclude
    (block : Block σ)
    (request : Request)
    (caller : Option CallerId)
    (run : Run)
    (shared : Shared τ σ) :
    Mirrors block request shared (.running caller run)
      (conclude block.recorded (block.invocation request) caller run.outcome shared.recorded)
      (conclude block (block.invocation request) caller run.outcome shared) := by
  cases caller with
  | none => exact mirrors_mapFlights id (.ended run)
  | some caller =>
      have unstored : Mirrors block request shared (.running (some caller) run)
          (.releasing caller run.outcome.answer, shared.recorded)
          (.releasing caller run.outcome.answer, shared) :=
        mirrors_mapFlights id (.endedUnstored caller run)
      rcases ended : run.outcome with crash | fault | made
      · rw [ended] at unstored
        exact unstored
      · rw [ended] at unstored
        exact unstored
      · obtain ⟨told, stored, sameChain, calls⟩ :=
          store_recorded block request made shared
        rcases plainly : block.store shared.chain (block.invocation request) made
          shared.surroundings with ⟨chain, later⟩
        rw [plainly] at stored sameChain
        simp only [conclude, Shared.recorded, stored, plainly]
        refine ⟨rfl, ?_, ?_⟩
        · rw [Shared.unrecorded, sameChain]
        · rw [deeds_of_idle]
          obtain none | stores := calls
          · rw [none, ← ended]
            exact .endedUnstored caller run
          · exact .endedStored caller ended stores

/-- A step of a call is observed, and recording does not change it. -/
theorem exists_observed
    (stepped : step? block request stage shared = some (next, after)) :
    ∃ seen, stepSeen? block request stage shared = some (seen, next, after) ∧
      Shows block request shared stage seen next := by
  obtain ⟨⟨reached, left⟩, recordedStep, mirrors⟩ :
      ∃ mirrored, step? block.recorded request stage shared.recorded = some mirrored ∧
        Mirrors block request shared stage mirrored (next, after) := by
    cases stage with
    | asking =>
        cases stepped
        exact ⟨_, rfl, mirrors_ask block request shared⟩
    | arriving =>
        cases stepped
        exact ⟨_, rfl, mirrors_mapFlights _ (.entered _ _)⟩
    | waiting caller contended =>
        simp only [step?, acquire?, Option.map_eq_some_iff, Prod.mk.injEq] at stepped
        obtain ⟨flights, acquired, rfl, rfl⟩ := stepped
        refine ⟨(_, mapFlights shared.recorded fun _ => flights), ?_,
          mirrors_mapFlights (fun _ => flights) (.acquired caller contended)⟩
        change (shared.chain.flights.acquire? caller).map _ = _
        rw [acquired]
        rfl
    | rechecking caller =>
        cases stepped
        exact ⟨_, rfl, mirrors_recheck block request caller shared⟩
    | starting caller =>
        cases stepped
        exact ⟨_, rfl, mirrors_start block request caller shared⟩
    | running caller run =>
        rw [← Option.some.inj stepped]
        exact ⟨_, rfl, mirrors_conclude block request caller run shared⟩
    | releasing caller answer =>
        cases stepped
        exact ⟨_, rfl, mirrors_mapFlights (·.release caller) (.released caller answer)⟩
    | sweeping caller answer =>
        cases stepped
        exact ⟨_, rfl, mirrors_mapFlights (·.sweep caller) (.swept caller answer)⟩
    | departing caller answer =>
        cases stepped
        exact ⟨_, rfl, mirrors_mapFlights (·.depart caller) (.departed caller answer)⟩
    | finished answer => cases stepped
  obtain rfl : reached = next := mirrors.reaches
  obtain rfl : left.unrecorded = after := mirrors.leaves
  refine ⟨deeds left, ?_, mirrors.tells⟩
  rw [stepSeen?, recordedStep, Option.map_some]

/-- Nothing is observed of a call that takes no step. -/
theorem stepSeen?_eq_none
    (still : step? block request stage shared = none) :
    stepSeen? block request stage shared = none := by
  cases stage with
  | waiting caller contended =>
      rw [step?, acquire?, Option.map_eq_none_iff] at still
      change ((shared.chain.flights.acquire? caller).map _).map _ = none
      rw [still]
      rfl
  | finished answer => rfl
  | _ => cases still

/-- Recording changes neither where a call goes nor what it leaves behind. -/
theorem map_snd_stepSeen? (block : Block σ) (request : Request) (stage : Stage)
    (shared : Shared τ σ) :
    (stepSeen? block request stage shared).map Prod.snd = step? block request stage shared := by
  cases stepped : step? block request stage shared with
  | none =>
      rw [stepSeen?_eq_none stepped]
      rfl
  | some reached =>
      obtain ⟨seen, observed, -⟩ := exists_observed stepped
      rw [observed]
      rfl

/-- What is seen of a step is what a step of that stage shows. -/
theorem shows_of_observed
    (observed : stepSeen? block request stage shared = some (seen, next, after)) :
    Shows block request shared stage seen next := by
  have stepped := map_snd_stepSeen? block request stage shared
  rw [observed] at stepped
  obtain ⟨told, same, shows⟩ := exists_observed stepped.symm
  rw [observed] at same
  cases same
  exact shows

end Call
end Block
end FragmentCache
