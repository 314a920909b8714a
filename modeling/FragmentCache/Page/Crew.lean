/-!
# Crews

A crew of workers takes tasks only as long as a worker is idle for each of them;
any other task is left to the caller.  A worker looks for a task, is parked when
there is none, and looks again when it is woken.  A stopped crew finishes what is
queued.
-/

namespace FragmentCache
namespace Crew

/-- Where a worker is. -/
inductive Worker (α : Type) where
  /-- About to look for a task. -/
  | starting
  /-- Idle and asleep. -/
  | parked
  /-- Idle and about to look again. -/
  | woken
  | busy (task : α)
  | exited
  deriving DecidableEq

/-- Who runs a task. -/
inductive Dispatch where
  /-- A worker. -/
  | queued
  /-- The caller. -/
  | inline
  deriving DecidableEq

end Crew

/-- Workers with the tasks they have not begun. -/
structure Crew (α : Type) where
  workers : List (Crew.Worker α) := []
  /-- Tasks, the oldest first. -/
  queue : List α := []
  /-- Workers that wait for a task. -/
  idle : Nat := 0
  /-- Whether tasks are accepted. -/
  isRunning : Bool := true
  /-- Tasks given to workers. -/
  queuedRuns : Nat := 0
  /-- Tasks left to callers. -/
  inlineRuns : Nat := 0
  /-- Tasks that crashed. -/
  panics : Nat := 0

namespace Crew

variable {α : Type}

/-- A crew whose workers have not looked for tasks yet. -/
def new (count : Nat) : Crew α := { workers := List.replicate count .starting }

/-- Number of workers. -/
def size (crew : Crew α) : Nat := crew.workers.length

/-- Put a worker into a state. -/
def setWorker (crew : Crew α) (index : Nat) (worker : Worker α) : Crew α :=
  { crew with workers := crew.workers.set index worker }

/-- Wake the first parked worker. -/
def wakeFirst : List (Worker α) → List (Worker α)
  | [] => []
  | .parked :: rest => .woken :: rest
  | worker :: rest => worker :: wakeFirst rest

/-- Offer a task: a worker gets it when one is idle for it. -/
def invoke (crew : Crew α) (task : α) : Crew α × Dispatch :=
  if crew.isRunning ∧ crew.queue.length < crew.idle then
    ({ crew with
        queue := crew.queue ++ [task]
        workers := wakeFirst crew.workers
        queuedRuns := crew.queuedRuns + 1 }, .queued)
  else ({ crew with inlineRuns := crew.inlineRuns + 1 }, .inline)

/-- An idle worker looks for a task. -/
def look (crew : Crew α) (index : Nat) : Crew α :=
  match crew.queue with
  | task :: queue => { crew with queue, idle := crew.idle - 1 }.setWorker index (.busy task)
  | [] =>
    if crew.isRunning then crew.setWorker index .parked
    else { crew with idle := crew.idle - 1 }.setWorker index .exited

/-- A worker that is not busy takes its next step; one that is parked wakes for no
reason. -/
def step (crew : Crew α) (index : Nat) : Crew α :=
  match crew.workers[index]? with
  | some .starting => { crew with idle := crew.idle + 1 }.look index
  | some .parked | some .woken => crew.look index
  | _ => crew

/-- The task of a busy worker. -/
def task? (crew : Crew α) (index : Nat) : Option α :=
  match crew.workers[index]? with
  | some (.busy task) => some task
  | _ => none

/-- Count a task that has ended. -/
def countEnd (crew : Crew α) (crashed : Bool) : Crew α :=
  { crew with panics := crew.panics + if crashed then 1 else 0 }

/-- A busy worker is done with its task. -/
def finish (crew : Crew α) (index : Nat) (crashed : Bool) : Crew α :=
  match crew.task? index with
  | some _ => (crew.countEnd crashed).setWorker index .starting
  | none => crew

/-- Wake a worker that is parked. -/
def Worker.wake : Worker α → Worker α
  | parked => woken
  | worker => worker

/-- Accept no more tasks; who is parked is woken later. -/
def halt (crew : Crew α) : Crew α := { crew with isRunning := false }

/-- Wake everybody who is parked. -/
def wakeAll (crew : Crew α) : Crew α :=
  { crew with workers := crew.workers.map Worker.wake }

/-- Accept no more tasks and wake everybody. -/
def stop (crew : Crew α) : Crew α := crew.halt.wakeAll

/-! ## Coming to rest -/

/-- Let a worker go on until it is parked, has exited or is at a task that does not
end; also the tasks it began.  `ending` tells whether a task crashes, for tasks that
end. -/
def settleWorker (ending : α → Option Bool) (index : Nat) :
    Nat → Crew α → Crew α × List α
  | 0, crew => (crew, [])
  | fuel + 1, crew =>
    match crew.workers[index]? with
    | some .starting | some .woken =>
      let crew := crew.step index
      let begun := (crew.task? index).toList
      let (crew, later) := settleWorker ending index fuel crew
      (crew, begun ++ later)
    | some (.busy task) =>
      match ending task with
      | some crashed => settleWorker ending index fuel (crew.finish index crashed)
      | none => (crew, [])
    | _ => (crew, [])

/-- Let all workers go on, one after the other, until they are at rest; also the
tasks they began.  Every task takes a worker two steps. -/
def settle (ending : α → Option Bool) (crew : Crew α) : Crew α × List α :=
  let fuel := 2 * crew.queue.length + 4
  (List.range crew.size).foldl
    (fun (crew, begun) index =>
      let (crew, later) := settleWorker ending index fuel crew
      (crew, begun ++ later))
    (crew, [])

@[simp] theorem size_new (count : Nat) : (new count : Crew α).size = count := by
  simp [new, size]

@[simp] theorem size_setWorker (crew : Crew α) (index : Nat) (worker : Worker α) :
    (crew.setWorker index worker).size = crew.size := by
  simp [setWorker, size]

@[simp] theorem size_wakeAll (crew : Crew α) : crew.wakeAll.size = crew.size := by
  simp [wakeAll, size]

end Crew
end FragmentCache
