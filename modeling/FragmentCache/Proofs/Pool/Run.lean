import FragmentCache.Proofs.Pool.Shelf

/-!
# Runs of pools and shelves

A run is a list of operations and what is observed after each of them.  A pool that
makes room visits its keys in an order of its own, a new one at every turn; a shelf
has no such choice.
-/

namespace FragmentCache
namespace Pool

/-- A way to visit keys in some order. -/
structure Visit where
  order : List String → List String
  perm : ∀ keys, (order keys).Perm keys

/-- The visit of keys in the order they are listed in. -/
def Visit.listed : Visit := ⟨id, fun _ => .refl _⟩

/-- The visit of keys from the last one to the first one. -/
def Visit.reversed : Visit := ⟨List.reverse, List.reverse_perm⟩

/-- What is asked of a pool. -/
inductive Operation where
  | load (key : String) (now : Timestamp)
  | save (key : String) (cached : Cached) (now : Timestamp)
  | remove (key : String)
  | shrink (now : Timestamp)
  | clear
  deriving DecidableEq

/-- When an operation happens, if it reads the time. -/
def Operation.time? : Operation → Option Timestamp
  | load _ now | save _ _ now | shrink now => some now
  | remove _ | clear => none

/-- What a pool replies to an operation. -/
inductive Reply where
  | answered (answer : Answer)
  /-- The load crashed and changed nothing. -/
  | crashed (crash : Crash)
  | removed (found : Bool)
  | done
  deriving DecidableEq

/-- A document, or the call to refresh it, that the first reply brings is brought by
the second one too. -/
structure Reply.ServedBy (small large : Reply) : Prop where
  success : ∀ cached, small = .answered (.success cached) → large = .answered (.success cached)
  needPrefetch : small = .answered .needPrefetch → large = .answered .needPrefetch

/-- The reply to an operation, and the gauges after it. -/
structure Observation where
  reply : Reply
  size : Nat
  usage : Usage
  deriving DecidableEq

/-- Carry out one operation, visiting keys in the given order. -/
def perform (pool : Pool) (visit : Visit) : Operation → Pool × Reply
  | .load key now =>
    match pool.load key now with
    | .ok (pool, answer) => (pool, .answered answer)
    | .error crash => (pool, .crashed crash)
  | .save key cached now =>
    (pool.saveAlong (visit.order pool.entries.keys) key cached now, .done)
  | .remove key => let (pool, found) := pool.remove key; (pool, .removed found)
  | .shrink now => (pool.shrinkAlong (visit.order pool.entries.keys) now, .done)
  | .clear => (pool.clear, .done)

/-- What is observed after an operation. -/
def observe (outcome : Pool × Reply) : Observation :=
  ⟨outcome.2, outcome.1.size, outcome.1.usage⟩

/-- Carry out operations one after the other; each turn has its own visit. -/
def run (pool : Pool) (visits : Nat → Visit) : List Operation → Pool × List Observation
  | [] => (pool, [])
  | operation :: rest =>
    let outcome := pool.perform (visits 0) operation
    let (last, observations) := outcome.1.run (fun turn => visits (turn + 1)) rest
    (last, observe outcome :: observations)

/-- A pool's run observes the first operation and then runs on. -/
theorem run_cons
    (pool : Pool)
    (visits : Nat → Visit)
    (operation : Operation)
    (rest : List Operation) :
    (pool.run visits (operation :: rest)).2 =
      observe (pool.perform (visits 0) operation) ::
        ((pool.perform (visits 0) operation).1.run (fun turn => visits (turn + 1)) rest).2 :=
  rfl

/-- A small document that expires at a time. -/
def leafUntil (expireTime : Timestamp) : Cached :=
  ⟨{ expireTime }, ⟨"<leaf/>", by decide⟩⟩

/-- Operations that get every kind of answer from a pool of two entries. -/
def sampleOperations : List Operation :=
  [.save "a" (leafUntil 200) 100, .save "b" (leafUntil 200) 110, .load "a" 120,
    .load "a" 196, .load "a" 197, .save "c" (leafUntil 300) 198, .load "b" 198,
    .load "a" 199, .load "a" 200, .shrink 201, .remove "c", .clear]

end Pool

namespace Shelf

open Pool (Operation Reply Observation)

/-- Carry out one operation. -/
def perform (shelf : Shelf) : Operation → Shelf × Reply
  | .load key now =>
    match shelf.load key now with
    | .ok (shelf, answer) => (shelf, .answered answer)
    | .error crash => (shelf, .crashed crash)
  | .save key cached now => (shelf.save key cached now, .done)
  | .remove key => let (shelf, found) := shelf.remove key; (shelf, .removed found)
  | .shrink now => (shelf.shrink now, .done)
  | .clear => (shelf.clear, .done)

/-- What is observed after an operation. -/
def observe (outcome : Shelf × Reply) : Observation :=
  ⟨outcome.2, outcome.1.size, outcome.1.usage⟩

/-- Carry out operations one after the other. -/
def run (shelf : Shelf) : List Operation → Shelf × List Observation
  | [] => (shelf, [])
  | operation :: rest =>
    let outcome := shelf.perform operation
    let (last, observations) := outcome.1.run rest
    (last, observe outcome :: observations)

/-- A shelf's run observes the first operation and then runs on. -/
theorem run_cons (shelf : Shelf) (operation : Operation) (rest : List Operation) :
    (shelf.run (operation :: rest)).2 =
      observe (shelf.perform operation) :: ((shelf.perform operation).1.run rest).2 :=
  rfl

end Shelf
end FragmentCache
