import FragmentCache.Block

/-!
# Calls in steps

A call of a cached block asks the tiers, and after a miss enters the flights.  The
first caller with a key computes the document; whoever waited for the lock asks the
tiers again before computing.  Calls of several callers may take their steps in any
order.
-/

namespace FragmentCache
namespace Block

/-- What all calls share. -/
structure Shared (τ σ : Type) where
  chain : Chain τ
  surroundings : Surroundings
  /-- State of the work of all blocks. -/
  work : σ

namespace Call

open Flights (CallerId)

/-- Where a call is; callers are those of the flights. -/
inductive Stage where
  /-- About to look for the document. -/
  | asking
  /-- About to enter the flights after a miss. -/
  | arriving
  /-- Waiting for the lock of the key. -/
  | waiting (caller : CallerId) (contended : Bool)
  /-- About to look again, with the lock. -/
  | rechecking (caller : CallerId)
  /-- About to start the work, with the lock or past the cache. -/
  | starting (caller : Option CallerId)
  /-- At work. -/
  | running (caller : Option CallerId) (run : Run)
  /-- About to release the lock. -/
  | releasing (caller : CallerId) (answer : Answer)
  /-- About to sweep the lock out of the list. -/
  | sweeping (caller : CallerId) (answer : Answer)
  /-- About to let go of the lock. -/
  | departing (caller : CallerId) (answer : Answer)
  | finished (answer : Answer)

/-- Answer of a finished call. -/
def Stage.answer? : Stage → Option Answer
  | finished answer => some answer
  | _ => none

/-- Whether a call is at work. -/
def Stage.isRunning : Stage → Bool
  | running _ _ => true
  | _ => false

/-- Whether a call is at work that ends only after the page was answered. -/
def Stage.isLate : Stage → Bool
  | running _ run => run.isLate
  | _ => false

variable {τ σ : Type}

/-- Change the flights of the chain. -/
def mapFlights (shared : Shared τ σ) (change : Flights → Flights) : Shared τ σ :=
  { shared with chain := { shared.chain with flights := change shared.chain.flights } }

/-- Enter the flights. -/
def arrive (invocation : Invocation) (shared : Shared τ σ) : Stage × Shared τ σ :=
  let (flights, caller, contended) := shared.chain.flights.enter invocation.keyText
  (.waiting caller contended, mapFlights shared fun _ => flights)

/-- Acquire the lock, unless it is held. -/
def acquire? (caller : CallerId) (contended : Bool) (shared : Shared τ σ) :
    Option (Stage × Shared τ σ) :=
  (shared.chain.flights.acquire? caller).map fun flights =>
    (if contended then .rechecking caller else .starting (some caller),
      mapFlights shared fun _ => flights)

/-- Start the work. -/
def start (block : Block σ) (request : Request) (caller : Option CallerId)
    (shared : Shared τ σ) : Stage × Shared τ σ :=
  let (work, run) := block.execute shared.work request
  (.running caller run, { shared with work })

variable [CacheTier τ]

/-- Look for the document before anything else. -/
def ask (block : Block σ) (invocation : Invocation) (shared : Shared τ σ) :
    Stage × Shared τ σ :=
  let (chain, surroundings, found) :=
    block.lookup shared.chain invocation shared.surroundings
  let stage := match found with
    | .ok (.hit cached) => .finished (.ok (.ok cached.document))
    | .ok .miss => .arriving
    | .ok (.skip _) => .starting none
    | .error crash => .finished (.error crash)
  (stage, { shared with chain, surroundings })

/-- Look again with the lock. -/
def recheck (invocation : Invocation) (caller : CallerId) (shared : Shared τ σ) :
    Stage × Shared τ σ :=
  let (chain, surroundings, found) := shared.chain.load invocation shared.surroundings
  let stage := match found with
    | .ok (some cached) => .releasing caller (.ok (.ok cached.document))
    | .ok none => .starting (some caller)
    | .error crash => .releasing caller (.error crash)
  (stage, { shared with chain, surroundings })

/-- End the work; with the lock a new document may be stored. -/
def conclude (block : Block σ) (invocation : Invocation) (caller : Option CallerId)
    (outcome : Outcome) (shared : Shared τ σ) : Stage × Shared τ σ :=
  match caller, outcome with
  | none, outcome => (.finished outcome.answer, shared)
  | some caller, .ok (.ok cached) =>
    let (chain, surroundings) :=
      block.store shared.chain invocation cached shared.surroundings
    (.releasing caller outcome.answer, { shared with chain, surroundings })
  | some caller, outcome => (.releasing caller outcome.answer, shared)

/-- The next step of a call; none while it waits and after its end. -/
def step? (block : Block σ) (request : Request) (stage : Stage) (shared : Shared τ σ) :
    Option (Stage × Shared τ σ) :=
  let invocation := block.invocation request
  match stage with
  | .asking => some (ask block invocation shared)
  | .arriving => some (arrive invocation shared)
  | .waiting caller contended => acquire? caller contended shared
  | .rechecking caller => some (recheck invocation caller shared)
  | .starting caller => some (start block request caller shared)
  | .running caller run => some (conclude block invocation caller run.outcome shared)
  | .releasing caller answer =>
    some (.sweeping caller answer, mapFlights shared (·.release caller))
  | .sweeping caller answer =>
    some (.departing caller answer, mapFlights shared (·.sweep caller))
  | .departing caller answer => some (.finished answer, mapFlights shared (·.depart caller))
  | .finished _ => none

/-- Take steps until the call has to wait, is finished, or reaches a stage to pause
in. -/
def advance (block : Block σ) (request : Request) (pauses : Stage → Bool) :
    Nat → Stage → Shared τ σ → Stage × Shared τ σ
  | 0, stage, shared => (stage, shared)
  | fuel + 1, stage, shared =>
    if pauses stage then (stage, shared)
    else match step? block request stage shared with
      | some (stage, shared) => advance block request pauses fuel stage shared
      | none => (stage, shared)

/-- Largest number of steps of a call. -/
def longestCall : Nat := 9

/-- Take as many steps as possible. -/
def finish (block : Block σ) (request : Request) (stage : Stage) (shared : Shared τ σ) :
    Stage × Shared τ σ :=
  advance block request (fun _ => false) longestCall stage shared

end Call

variable {τ σ : Type} [CacheTier τ]

/-- Call a block with nobody else around; no answer when another caller holds the
lock of the key. -/
def call (block : Block σ) (request : Request) (shared : Shared τ σ) :
    Shared τ σ × Option Answer :=
  let (stage, shared) := Call.finish block request .asking shared
  (shared, stage.answer?)

/-- Take as many steps as possible in several calls, one call after the other. -/
def finishAll (block : Block σ) (request : Request) :
    List Call.Stage → Shared τ σ → List Call.Stage × Shared τ σ
  | [], shared => ([], shared)
  | stage :: rest, shared =>
    let (stage, shared) := Call.finish block request stage shared
    let (rest, shared) := finishAll block request rest shared
    (stage :: rest, shared)

/-- Call a block several times at once.  The first caller is at work or done before
the others start, and those have finished or wait before it goes on. -/
def callTogether (block : Block σ) (request : Request) (shared : Shared τ σ) :
    Nat → Shared τ σ × List Answer
  | 0 => (shared, [])
  | others + 1 =>
    let (first, shared) :=
      Call.advance block request Call.Stage.isRunning Call.longestCall .asking shared
    let (others, shared) := finishAll block request (List.replicate others .asking) shared
    let (stages, shared) := finishAll block request (first :: others) shared
    (shared, stages.filterMap Call.Stage.answer?)

end Block
end FragmentCache
