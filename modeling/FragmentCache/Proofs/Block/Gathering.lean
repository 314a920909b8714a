import FragmentCache.Block.Call
import FragmentCache.Proofs.Chain.Flights
import FragmentCache.Proofs.Tier.Lasting
import Mathlib.Data.List.Perm.Basic

/-!
# Calls at the same time

Several parties call blocks at the same time and take their steps in any order.  When
all calls are about one invocation and its documents last, a step depends on the
flights and on the document kept for the invocation only; such steps are moves.
-/

namespace FragmentCache
namespace Block

open Flights (CallerId)

/-- Somebody who calls a block. -/
structure Party (σ : Type) where
  block : Block σ
  request : Request
  stage : Call.Stage := .asking

/-- What can be noticed of a step. -/
inductive Event where
  /-- A caller took the lock of the key, which was listed already or not. -/
  | entered (contended : Bool)
  /-- A caller acquired the lock that it had entered with. -/
  | acquired (contended : Bool)
  | executed (outcome : Outcome)

namespace Event

/-- Whether the lock was listed already, when somebody entered. -/
def entered? : Event → Option Bool
  | entered contended => some contended
  | _ => none

/-- Whether the lock was listed already, when somebody who entered acquires it. -/
def acquired? : Event → Option Bool
  | acquired contended => some contended
  | _ => none

/-- What came of the work, when some was done. -/
def executed? : Event → Option Outcome
  | executed outcome => some outcome
  | _ => none

end Event

/-- Parties that call at the same time. -/
structure Gathering (τ σ : Type) where
  shared : Shared τ σ
  parties : List (Party σ)
  /-- What happened, the oldest first. -/
  log : List Event := []

namespace Gathering

variable {τ σ : Type}

/-- What can be noticed when a call goes from one stage to the next one. -/
def noticed : Call.Stage → Call.Stage → List Event
  | .arriving, .waiting _ contended => [.entered contended]
  | .waiting _ contended, _ => [.acquired contended]
  | .starting _, .running _ run => [.executed run.outcome]
  | _, _ => []

/-- Everybody who entered, in order. -/
def entries (gathering : Gathering τ σ) : List Bool := gathering.log.filterMap Event.entered?

/-- Everybody who acquired a lock, in order. -/
def acquisitions (gathering : Gathering τ σ) : List Bool :=
  gathering.log.filterMap Event.acquired?

/-- The work that was done, in order. -/
def executions (gathering : Gathering τ σ) : List Outcome :=
  gathering.log.filterMap Event.executed?

/-- All calls have ended. -/
def IsOver (gathering : Gathering τ σ) : Prop :=
  ∀ party ∈ gathering.parties, party.stage.answer?.isSome

variable [CacheTier τ]

/-- The party whose turn it is takes a step, if it can. -/
def step (gathering : Gathering τ σ) (turn : Nat) : Gathering τ σ :=
  match gathering.parties[turn]? with
  | none => gathering
  | some party =>
    match Call.step? party.block party.request party.stage gathering.shared with
    | none => gathering
    | some (stage, shared) =>
      { shared
        parties := gathering.parties.set turn { party with stage }
        log := gathering.log ++ noticed party.stage stage }

/-- The parties take turns. -/
def run (gathering : Gathering τ σ) (turns : List Nat) : Gathering τ σ :=
  turns.foldl step gathering

end Gathering

/-! ## Moves -/

/-- What the calls of one invocation see of what they share. -/
structure Desk where
  flights : Flights
  /-- The document kept for the invocation. -/
  kept : Option Document

namespace Call

/-- A step of a call for an invocation whose documents last. -/
inductive Move (key : String) : Desk → Stage → Desk → Stage → Prop where
  | hit {desk : Desk} {document : Document} (kept : desk.kept = some document) :
      Move key desk .asking desk (.finished (.ok (.ok document)))
  | miss {desk : Desk} (kept : desk.kept = none) : Move key desk .asking desk .arriving
  | enter {desk : Desk} :
      Move key desk .arriving { desk with flights := (desk.flights.enter key).1 }
        (.waiting desk.flights.nextCaller (desk.flights.locks.contains key))
  | acquireFirst {desk : Desk} {caller : CallerId} {flights : Flights}
      (acquired : desk.flights.acquire? caller = some flights) :
      Move key desk (.waiting caller false) { desk with flights } (.starting (some caller))
  | acquireNext {desk : Desk} {caller : CallerId} {flights : Flights}
      (acquired : desk.flights.acquire? caller = some flights) :
      Move key desk (.waiting caller true) { desk with flights } (.rechecking caller)
  | recheckHit {desk : Desk} {caller : CallerId} {document : Document}
      (kept : desk.kept = some document) :
      Move key desk (.rechecking caller) desk (.releasing caller (.ok (.ok document)))
  | recheckMiss {desk : Desk} {caller : CallerId} (kept : desk.kept = none) :
      Move key desk (.rechecking caller) desk (.starting (some caller))
  | start {desk : Desk} {caller : CallerId} {run : Run} {cached : Cached}
      (outcome : run.outcome = .ok (.ok cached)) :
      Move key desk (.starting (some caller)) desk (.running (some caller) run)
  | conclude {desk : Desk} {caller : CallerId} {run : Run} {cached : Cached}
      (outcome : run.outcome = .ok (.ok cached)) :
      Move key desk (.running (some caller) run) { desk with kept := some cached.document }
        (.releasing caller (.ok (.ok cached.document)))
  | release {desk : Desk} {caller : CallerId} {answer : Answer} :
      Move key desk (.releasing caller answer)
        { desk with flights := desk.flights.release caller } (.sweeping caller answer)
  | sweep {desk : Desk} {caller : CallerId} {answer : Answer} :
      Move key desk (.sweeping caller answer)
        { desk with flights := desk.flights.sweep caller } (.departing caller answer)
  | depart {desk : Desk} {caller : CallerId} {answer : Answer} :
      Move key desk (.departing caller answer)
        { desk with flights := desk.flights.depart caller } (.finished answer)

end Call

/-- A tag is stored at any time, and without an end of validity. -/
def Lasting (cacheTime : Option Duration) (minimum : Duration) (tag : Tag) : Prop :=
  ∀ now, (shouldStoreAt cacheTime minimum tag now).1 = true ∧
    (shouldStoreAt cacheTime minimum tag now).2.hasExpireTime = false

variable {σ : Type}

/-- The party calls a block that uses the cache, for an invocation, and its work always
makes a document that lasts. -/
structure Party.Attends (party : Party σ) (invocation : Invocation) (minimum : Duration) :
    Prop where
  sameInvocation : party.block.invocation party.request = invocation
  cached : ∃ cacheTime, party.block.policy = .cached true cacheTime
  lasting : ∀ work, ∃ cached,
    (party.block.execute work party.request).2.outcome = .ok (.ok cached) ∧
      Lasting party.block.policy.cacheTime? minimum cached.tag

/-- Work that is under way is the work of the party's block. -/
def Party.Works (party : Party σ) : Prop :=
  ∀ caller run, party.stage = .running caller run →
    ∃ work, run = (party.block.execute work party.request).2

theorem Party.works_of_idle
    {party : Party σ}
    (idle : party.stage.isRunning = false) :
    party.Works := by
  intro caller run running
  rw [running] at idle
  cases idle

/-- A call that is not past the cache. -/
def Call.Stage.IsSheltered : Call.Stage → Prop
  | .starting none | .running none _ => False
  | _ => True

section Step

variable {block : Block σ} {request : Request} {invocation : Invocation} {minimum : Duration}
  {shared next : Shared MemoryTier σ} {kept : Option Document} {stage : Call.Stage}

/-- Arriving enters the flights, and the caller learns whether the lock was listed. -/
theorem arrive_eq (invocation : Invocation) (shared : Shared MemoryTier σ) :
    Call.arrive invocation shared =
      (.waiting shared.chain.flights.nextCaller
          (shared.chain.flights.locks.contains invocation.keyText),
        Call.mapFlights shared fun flights => (flights.enter invocation.keyText).1) := by
  rw [← Flights.contended_enter]
  rfl

/-- A block that uses the cache finds what is kept. -/
theorem lookup_of_keeps
    (cached : ∃ cacheTime, block.policy = .cached true cacheTime)
    (keeps : shared.chain.Keeps minimum invocation kept) :
    ∃ chain surroundings found,
      block.lookup shared.chain invocation shared.surroundings =
        (chain, surroundings, .ok (match found with | some cached => .hit cached | none => .miss)) ∧
      chain.Keeps minimum invocation kept ∧ chain.flights = shared.chain.flights ∧
        Option.map Cached.document found = kept := by
  obtain ⟨chain, surroundings, found, loaded, stays, sameFlights, sameDocument⟩ :=
    keeps.load shared.surroundings
  have unskipped : block.skipReason? shared.chain = none := by
    obtain ⟨cacheTime, policy⟩ := cached
    obtain ⟨counted, single, -⟩ := keeps
    unfold skipReason?
    rw [policy, single]
    rfl
  refine ⟨chain, surroundings, found, ?_, stays, sameFlights, sameDocument⟩
  unfold lookup
  rw [unskipped]
  simp only [loaded]
  cases found <;> rfl

/-- A lasting document is kept once it was stored. -/
theorem store_of_lasting
    (keeps : shared.chain.Keeps minimum invocation kept)
    {cached : Cached}
    (lasting : Lasting block.policy.cacheTime? minimum cached.tag) :
    ∃ chain surroundings,
      block.store shared.chain invocation cached shared.surroundings = (chain, surroundings) ∧
        chain.Keeps minimum invocation (some cached.document) ∧
          chain.flights = shared.chain.flights := by
  obtain ⟨stored, openEnded⟩ := lasting shared.surroundings.readClock.1
  cases decided : shouldStoreAt block.policy.cacheTime? minimum cached.tag
      shared.surroundings.readClock.1 with
  | mk worthy tag =>
      rw [decided] at stored openEnded
      cases stored
      have openCopy : ({ cached with tag } : Cached).tag.hasExpireTime = false := openEnded
      obtain ⟨chain, surroundings, saved, keptNow, sameFlights⟩ :=
        keeps.save openCopy shared.surroundings.readClock.2
      refine ⟨chain, surroundings, ?_, keptNow, sameFlights⟩
      unfold store
      simp only [keeps.minimalCacheTime_eq, decided, saved]

/-- A stage and what is shared are reached by a move from others. -/
def Call.Moves
    (minimum : Duration)
    (invocation : Invocation)
    (shared : Shared MemoryTier σ)
    (kept : Option Document)
    (current : Call.Stage)
    (reached : Call.Stage × Shared MemoryTier σ) :
    Prop :=
  ∃ keptNext, reached.2.chain.Keeps minimum invocation keptNext ∧
    Call.Move invocation.keyText ⟨shared.chain.flights, kept⟩ current
      ⟨reached.2.chain.flights, keptNext⟩ reached.1

/-- Looking for the document first is a move. -/
theorem Call.moves_ask
    (cached : ∃ cacheTime, block.policy = .cached true cacheTime)
    (keeps : shared.chain.Keeps minimum invocation kept) :
    Call.Moves minimum invocation shared kept .asking (Call.ask block invocation shared) := by
  obtain ⟨chain, surroundings, found, looked, stays, sameFlights, rfl⟩ :=
    lookup_of_keeps cached keeps
  rw [Call.Moves, Call.ask, looked, ← sameFlights]
  cases found with
  | none => exact ⟨none, stays, .miss rfl⟩
  | some cached => exact ⟨some cached.document, stays, .hit rfl⟩

/-- Acquiring the lock is a move. -/
theorem Call.moves_acquire
    {caller : CallerId}
    {contended : Bool}
    (keeps : shared.chain.Keeps minimum invocation kept)
    (stepped : Call.acquire? caller contended shared = some (stage, next)) :
    Call.Moves minimum invocation shared kept (.waiting caller contended) (stage, next) := by
  rw [Call.acquire?, Option.map_eq_some_iff] at stepped
  obtain ⟨flights, acquired, same⟩ := stepped
  cases contended with
  | false =>
      cases same
      exact ⟨kept, keeps, .acquireFirst acquired⟩
  | true =>
      cases same
      exact ⟨kept, keeps, .acquireNext acquired⟩

/-- Looking again with the lock is a move. -/
theorem Call.moves_recheck
    (caller : CallerId)
    (keeps : shared.chain.Keeps minimum invocation kept) :
    Call.Moves minimum invocation shared kept (.rechecking caller)
      (Call.recheck invocation caller shared) := by
  obtain ⟨chain, surroundings, found, loaded, stays, sameFlights, rfl⟩ :=
    keeps.load shared.surroundings
  rw [Call.Moves, Call.recheck, loaded, ← sameFlights]
  cases found with
  | none => exact ⟨none, stays, .recheckMiss rfl⟩
  | some cached => exact ⟨some cached.document, stays, .recheckHit rfl⟩

/-- Ending work that made a lasting document is a move. -/
theorem Call.moves_conclude
    (caller : CallerId)
    {run : Run}
    {cached : Cached}
    (keeps : shared.chain.Keeps minimum invocation kept)
    (lasting : Lasting block.policy.cacheTime? minimum cached.tag)
    (outcome : run.outcome = .ok (.ok cached)) :
    Call.Moves minimum invocation shared kept (.running (some caller) run)
      (Call.conclude block invocation (some caller) run.outcome shared) := by
  obtain ⟨chain, surroundings, stored, keptNow, sameFlights⟩ := store_of_lasting keeps lasting
  rw [Call.Moves, outcome, Call.conclude, stored, ← sameFlights]
  exact ⟨some cached.document, keptNow, .conclude outcome⟩

/-- Every step of a party is a move. -/
theorem Call.moves_of_step
    {party : Party σ}
    (attends : party.Attends invocation minimum)
    (works : party.Works)
    (sheltered : party.stage.IsSheltered)
    (keeps : shared.chain.Keeps minimum invocation kept)
    (stepped : Call.step? party.block party.request party.stage shared = some (stage, next)) :
    Call.Moves minimum invocation shared kept party.stage (stage, next) := by
  obtain ⟨block, request, current⟩ := party
  obtain ⟨sameInvocation, cached, lasting⟩ := attends
  unfold Call.step? at stepped
  dsimp only at sameInvocation cached lasting sheltered stepped works ⊢
  rw [sameInvocation] at stepped
  cases current with
  | asking =>
      rw [← Option.some.inj stepped]
      exact Call.moves_ask cached keeps
  | arriving =>
      simp only [arrive_eq] at stepped
      cases stepped
      exact ⟨kept, keeps, .enter⟩
  | waiting caller contended => exact Call.moves_acquire keeps stepped
  | rechecking caller =>
      rw [← Option.some.inj stepped]
      exact Call.moves_recheck caller keeps
  | starting caller =>
      obtain _ | caller := caller
      · exact sheltered.elim
      · obtain ⟨cached, outcome, -⟩ := lasting shared.work
        cases stepped
        exact ⟨kept, keeps, .start outcome⟩
  | running caller run =>
      obtain _ | caller := caller
      · exact sheltered.elim
      · obtain ⟨work, ofBlock⟩ := works _ run rfl
        obtain ⟨cached, outcome, lasts⟩ := lasting work
        rw [← Option.some.inj stepped]
        exact Call.moves_conclude caller keeps lasts (ofBlock ▸ outcome)
  | releasing caller answer =>
      cases stepped
      exact ⟨kept, keeps, .release⟩
  | sweeping caller answer =>
      cases stepped
      exact ⟨kept, keeps, .sweep⟩
  | departing caller answer =>
      cases stepped
      exact ⟨kept, keeps, .depart⟩
  | finished answer => cases stepped

/-- Only a start leads to work under way. -/
theorem Call.Move.isRunning_eq_false
    {key : String}
    {desk after : Desk}
    {current : Call.Stage}
    (move : Call.Move key desk current after stage)
    (idle : ∀ caller, current ≠ .starting caller) :
    stage.isRunning = false := by
  cases move with
  | start => exact absurd rfl (idle _)
  | _ => rfl

/-- A step of a party is a move, and work that it starts is the work of the party's block. -/
theorem exists_move
    {party : Party σ}
    (attends : party.Attends invocation minimum)
    (works : party.Works)
    (sheltered : party.stage.IsSheltered)
    (keeps : shared.chain.Keeps minimum invocation kept)
    (stepped : Call.step? party.block party.request party.stage shared = some (stage, next)) :
    ∃ keptNext, next.chain.Keeps minimum invocation keptNext ∧
      Call.Move invocation.keyText ⟨shared.chain.flights, kept⟩ party.stage
        ⟨next.chain.flights, keptNext⟩ stage ∧
      Party.Works { party with stage } := by
  obtain ⟨keptNext, keepsNext, move⟩ :=
    Call.moves_of_step attends works sheltered keeps stepped
  refine ⟨keptNext, keepsNext, move, ?_⟩
  by_cases idle : ∀ caller, party.stage ≠ .starting caller
  · exact Party.works_of_idle (move.isRunning_eq_false idle)
  · push Not at idle
    obtain ⟨caller, starts⟩ := idle
    rw [starts] at stepped
    cases stepped
    intro _ _ same
    cases same
    exact ⟨shared.work, rfl⟩

end Step

end Block
end FragmentCache
