import FragmentCache.Proofs.Page.Tally
import Mathlib.Algebra.Ring.Nat
import Mathlib.Data.List.Perm.Basic

/-!
# Closing time

A crew that was halted takes no more tasks.  Once everybody was woken after that, nobody is
parked any more, and what the workers still have to do can be counted: each step of a worker
makes it less by one, whatever else happens, and when nothing is left all workers have
exited.  By then every task that was queued was run by one of them.
-/

namespace FragmentCache
namespace Crew

/-! ## Work that is left -/

namespace Worker

variable {α : Type}

/-- Steps that a worker has to take until it exits, if it takes no task. -/
def stepsLeft : Worker α → Nat
  | exited => 0
  | busy _ => 2
  | _ => 1

end Worker

/-- Steps that the workers of a halted crew have to take until all have exited: two for every
task that is queued, one to take it and one to end it. -/
def stepsLeft (crew : Crew TaskId) : Nat :=
  2 * crew.queue.length + (crew.workers.map Worker.stepsLeft).sum

variable {crew next : Crew TaskId} {index : Nat} {worker : Worker TaskId}

/-- Exchanging a worker changes the sum of the steps left by that worker alone. -/
theorem sum_stepsLeft_set
    {workers : List (Worker TaskId)}
    (here : workers[index]? = some worker)
    (new : Worker TaskId) :
    ((workers.set index new).map Worker.stepsLeft).sum + worker.stepsLeft =
      (workers.map Worker.stepsLeft).sum + new.stepsLeft := by
  obtain ⟨inside, rfl⟩ := List.getElem?_eq_some_iff.1 here
  have before := (List.getElem_cons_eraseIdx_perm inside).map Worker.stepsLeft
  have after := (List.set_perm_cons_eraseIdx inside new).map Worker.stepsLeft
  rw [after.sum_nat, ← before.sum_nat]
  simp only [List.map_cons, List.sum_cons]
  omega

theorem stepsLeft_of_isSeeking (seeking : worker.isSeeking = true) : worker.stepsLeft = 1 := by
  cases worker with
  | busy task => cases seeking
  | exited => cases seeking
  | _ => rfl

/-- A crew that was halted, with nobody parked. -/
structure Closing (crew : Crew TaskId) : Prop where
  halted : crew.isRunning = false
  awake : .parked ∉ crew.workers

/-- A crew that was halted is closing once all were woken. -/
theorem closing_wakeAll (halted : crew.isRunning = false) : crew.wakeAll.Closing :=
  ⟨halted, parked_notMem_wakeAll crew.workers⟩

/-- A crew that is closing takes no task. -/
theorem Closing.offer (closing : crew.Closing) (chosen : Nat) (task : TaskId) :
    crew.offer chosen task = (crew, .inline) := by
  simp [Crew.offer, closing.halted]

theorem Closing.stir (closing : crew.Closing) (index : Nat) : crew.stir index = crew := by
  obtain ⟨parked, -⟩ | same := crew.stir_cases index
  · exact absurd (List.mem_of_getElem? parked) closing.awake
  · exact same

theorem Closing.wakeAll (closing : crew.Closing) : crew.wakeAll = crew := by
  have same : crew.workers.map Worker.wake = crew.workers.map id := by
    apply List.map_congr_left
    intro worker member
    cases worker with
    | parked => exact absurd member closing.awake
    | _ => rfl
  rw [Crew.wakeAll, same, List.map_id]

/-- A crew goes on closing when a worker that is awake is exchanged for another one. -/
theorem Closing.set
    (closing : crew.Closing)
    (sameRunning : next.isRunning = crew.isRunning)
    {new : Worker TaskId}
    (set : next.workers = crew.workers.set index new)
    (awake : new ≠ .parked) :
    next.Closing where
  halted := sameRunning.trans closing.halted
  awake := by
    rw [set]
    intro member
    obtain here | new := List.mem_or_eq_of_mem_set member
    · exact closing.awake here
    · exact awake new.symm

/-- A worker that looks at a crew at closing time takes a step less to exit, or it has exited
or is busy. -/
theorem Closing.turn
    (closing : crew.Closing)
    (turn : crew.Turn index next) :
    next.Closing ∧
      (next = crew ∧ (∀ worker, crew.workers[index]? = some worker → worker.isSeeking = false) ∨
        next.stepsLeft + 1 = crew.stepsLeft ∧
          ∃ worker, crew.workers[index]? = some worker ∧ worker.isSeeking = true) := by
  cases turn with
  | rest unseeking => exact ⟨closing, .inl ⟨rfl, unseeking⟩⟩
  | @took worker task queue here seeking queued =>
      -- The task leaves the queue, where it counts two, and makes the worker count one more.
      refine ⟨closing.set rfl rfl nofun, .inr ⟨?_, worker, here, seeking⟩⟩
      have more := sum_stepsLeft_set here (.busy task)
      rw [stepsLeft_of_isSeeking seeking, Worker.stepsLeft] at more
      simp only [stepsLeft, queued, List.length_cons]
      omega
  | parked here seeking unqueued running => simp [closing.halted] at running
  | @exited worker here seeking unqueued halted =>
      refine ⟨closing.set rfl rfl nofun, .inr ⟨?_, worker, here, seeking⟩⟩
      have less := sum_stepsLeft_set here .exited
      rw [stepsLeft_of_isSeeking seeking, Worker.stepsLeft] at less
      simp only [stepsLeft]
      omega

/-- The end of a task is one of the steps left. -/
theorem Closing.finish
    {task : TaskId}
    (closing : crew.Closing)
    (busy : crew.task? index = some task)
    (crashed : Bool) :
    (crew.finish index crashed).Closing ∧
      (crew.finish index crashed).stepsLeft + 1 = crew.stepsLeft := by
  have here := task?_eq_some_iff.1 busy
  rw [finish_of_task? busy]
  refine ⟨closing.set rfl rfl nofun, ?_⟩
  have less := sum_stepsLeft_set here .starting
  simp only [Worker.stepsLeft] at less
  simp only [stepsLeft, setWorker, countEnd]
  omega

/-- When all workers have exited, no task is queued. -/
theorem Manned.queue_eq_nil
    (manned : crew.Manned)
    (exited : ∀ worker ∈ crew.workers, worker = .exited) :
    crew.queue = [] := by
  have nobody : crew.workers.countP Worker.isWoken = 0 := by
    rw [List.countP_eq_zero]
    intro worker member
    simp [exited worker member, Worker.isWoken]
  have queued := manned.queued
  rw [nobody, Nat.le_zero] at queued
  exact List.eq_nil_of_length_eq_zero queued

/-- Nothing is left to do exactly if all workers have exited. -/
theorem Manned.stepsLeft_eq_zero_iff (manned : crew.Manned) :
    crew.stepsLeft = 0 ↔ ∀ worker ∈ crew.workers, worker = .exited := by
  constructor
  · intro nothing worker member
    have steps : (crew.workers.map Worker.stepsLeft).sum = 0 := (Nat.add_eq_zero_iff.1 nothing).2
    have none := List.sum_eq_zero_iff_forall_eq_nat.1 steps _ (List.mem_map_of_mem member)
    cases worker with
    | exited => rfl
    | _ => cases none
  · intro exited
    rw [Crew.stepsLeft, manned.queue_eq_nil exited, List.length_nil, Nat.mul_zero, Nat.zero_add,
      List.sum_eq_zero_iff_forall_eq_nat]
    intro steps member
    obtain ⟨worker, here, rfl⟩ := List.mem_map.1 member
    rw [exited worker here]
    rfl

namespace Shift

variable {shift : Shift}

/-! ## Steps of workers -/

/-- Whether a move is a step that a worker takes. -/
def isWorkersStep (shift : Shift) : Move → Bool
  | .look index => (shift.crew.workers[index]?).any Worker.isSeeking
  | .finish index _ => (shift.crew.task? index).isSome
  | _ => false

/-- Number of steps that workers take in some moves. -/
def workersSteps (shift : Shift) : List Move → Nat
  | [] => 0
  | move :: rest => (shift.isWorkersStep move).toNat + (shift.advance move).workersSteps rest

/-- Every step of a worker is one of the steps left, and nothing else adds any. -/
theorem closing_advance (closing : shift.crew.Closing) (move : Move) :
    (shift.advance move).crew.Closing ∧
      (shift.advance move).crew.stepsLeft + (shift.isWorkersStep move).toNat =
        shift.crew.stepsLeft := by
  cases move with
  | invoke chosen =>
      rw [advance, closing.offer]
      exact ⟨closing, rfl⟩
  | count call =>
      rw [advance]
      split <;> exact ⟨⟨closing.halted, closing.awake⟩, rfl⟩
  | finishCall call crashed =>
      rw [advance]
      split <;> exact ⟨⟨closing.halted, closing.awake⟩, rfl⟩
  | stir index =>
      rw [advance, closing.stir]
      exact ⟨closing, rfl⟩
  | look index =>
      rw [advance, isWorkersStep]
      obtain ⟨next, ⟨same, unseeking⟩ | ⟨fewer, worker, here, seeking⟩⟩ :=
        closing.turn (shift.crew.turn_step index)
      · refine ⟨next, ?_⟩
        rw [same]
        cases here : shift.crew.workers[index]? with
        | none => rfl
        | some worker => simp [unseeking worker here]
      · exact ⟨next, by simpa [here, seeking] using fewer⟩
  | finish index crashed =>
      rw [advance, isWorkersStep]
      cases busy : shift.crew.task? index with
      | none => exact ⟨closing, rfl⟩
      | some task => exact closing.finish busy crashed
  | halt => exact ⟨⟨rfl, closing.awake⟩, rfl⟩
  | wakeAll =>
      rw [advance, closing.wakeAll]
      exact ⟨closing, rfl⟩

/-- What is left to do after some moves, and the steps that workers took in them, are what
was left to do before. -/
theorem closing_run (closing : shift.crew.Closing) (moves : List Move) :
    (shift.run moves).crew.Closing ∧
      (shift.run moves).crew.stepsLeft + shift.workersSteps moves = shift.crew.stepsLeft := by
  induction moves generalizing shift with
  | nil => exact ⟨closing, rfl⟩
  | cons move rest inductionHypothesis =>
      obtain ⟨next, fewer⟩ := closing_advance closing move
      obtain ⟨last, left⟩ := inductionHypothesis next
      refine ⟨last, ?_⟩
      rw [← fewer, ← left, workersSteps]
      exact (Nat.add_assoc _ _ _).symm.trans (Nat.add_right_comm _ _ _)

/-- As long as some worker has not exited, some worker can take a step. -/
theorem exists_workersStep
    (closing : shift.crew.Closing)
    {worker : Worker TaskId}
    (member : worker ∈ shift.crew.workers)
    (unexited : worker ≠ .exited) :
    ∃ move, shift.isWorkersStep move = true := by
  obtain ⟨index, here⟩ := List.mem_iff_getElem?.1 member
  cases worker with
  | parked => exact absurd member closing.awake
  | exited => exact absurd rfl unexited
  | busy task =>
      refine ⟨.finish index false, ?_⟩
      rw [isWorkersStep, task?_eq_some_iff.2 here]
      rfl
  | starting =>
      refine ⟨.look index, ?_⟩
      rw [isWorkersStep, here]
      rfl
  | woken =>
      refine ⟨.look index, ?_⟩
      rw [isWorkersStep, here]
      rfl

/-! ## Tasks that were run -/

variable {task : TaskId} {progress : Progress Bool}

/-- A call that returns with its task has run it. -/
theorem At.events_of_inline
    (now : shift.At task progress)
    (returned : shift.calls[task]? = some (.returned .inline)) :
    ∃ crashed, Event.about shift.log task = [.begun task .caller, .ended task .caller crashed] := by
  obtain ⟨-, events, fits⟩ := now
  rw [returned] at fits
  obtain ⟨crashed, rfl⟩ := fits
  exact ⟨crashed, events⟩

/-- A task that was left to the crew is queued, with one worker, or was run by one. -/
theorem At.events_of_queued
    (now : shift.At task progress)
    (returned : shift.calls[task]? = some (.returned .queued)) :
    (Event.about shift.log task = [.queued task] ∧ shift.crew.queue.count task = 1) ∨
    ∃ worker,
      (Event.about shift.log task = [.queued task, .begun task (.worker worker)] ∧
        shift.crew.task? worker = some task) ∨
      ∃ crashed, Event.about shift.log task =
        [.queued task, .begun task (.worker worker), .ended task (.worker worker) crashed] := by
  obtain ⟨tracks, events, fits⟩ := now
  rw [returned] at fits
  rcases progress with _ | _ | ⟨_ | worker⟩ | ⟨_ | worker, crashed⟩
  · cases fits
  · exact .inl ⟨events, tracks.queued⟩
  · cases fits
  · exact .inr ⟨worker, .inl ⟨events, (tracks.busy worker).2 rfl⟩⟩
  · cases fits
  · exact .inr ⟨worker, .inr ⟨crashed, events⟩⟩

/-- When all workers have exited, one of them has run each task that was left to them. -/
theorem At.ended_of_exited
    (now : shift.At task progress)
    (returned : shift.calls[task]? = some (.returned .queued))
    (manned : shift.crew.Manned)
    (exited : ∀ worker ∈ shift.crew.workers, worker = .exited) :
    ∃ worker crashed, Event.about shift.log task =
      [.queued task, .begun task (.worker worker), .ended task (.worker worker) crashed] := by
  obtain ⟨-, queued⟩ | ⟨worker, ⟨-, busy⟩ | ⟨crashed, ended⟩⟩ := now.events_of_queued returned
  · rw [manned.queue_eq_nil exited] at queued
    cases queued
  · cases exited _ (List.mem_of_getElem? (task?_eq_some_iff.1 busy))
  · exact ⟨worker, crashed, ended⟩

/-- When all calls have returned, each of them was counted once. -/
theorem Tallied.runs_eq
    (tallied : shift.Tallied)
    (returned : ∀ call ∈ shift.calls, ∃ dispatch, call = .returned dispatch) :
    shift.crew.queuedRuns + shift.crew.inlineRuns = shift.calls.length := by
  have others : shift.calls.countP Call.isInline =
      shift.calls.countP fun call => ¬call.isQueued = true := by
    apply List.countP_congr
    intro call member
    obtain ⟨dispatch, rfl⟩ := returned call member
    cases dispatch <;> simp [Call.isInline, Call.isQueued]
  rw [tallied.queuedRuns, tallied.inlineRuns, others, ← List.length_eq_countP_add_countP]

/-- A worker whose task has ended looks for the next one, even if the task crashed. -/
theorem starting_of_finish
    {index : Nat}
    (busy : shift.crew.task? index = some task)
    (crashed : Bool) :
    (shift.advance (.finish index crashed)).crew.workers[index]? = some .starting := by
  obtain ⟨inside, -⟩ := List.getElem?_eq_some_iff.1 (task?_eq_some_iff.1 busy)
  rw [advance, busy]
  dsimp only
  rw [finish_of_task? busy]
  exact List.getElem?_set_self inside

/-- When a crew is stopped, nobody is parked after everybody was woken. -/
theorem closing_stopped (shift : Shift) (between : List Move) :
    (shift.run (.halt :: between ++ [.wakeAll])).crew.Closing := by
  rw [run_append]
  exact closing_wakeAll (run_of_advance (·.crew.isRunning = false)
    (fun shift move halted => (shift.step_advance move).lasts.halted halted) rfl between)

/-- In whatever order moves come, stopping the crew among them.

* A call that returned with its task ran it once, itself and before it returned.
* A task that was left to the workers is queued, with one worker, or was run by one, once.
* Once all workers have exited no task is queued, and each that was left to them was run.
* No worker exits before the crew was halted, and one whose task crashed goes on.
* The crew counts the calls that have returned, and the tasks that crashed.
* When the crew is stopped, each step of a worker leaves one less, until all have exited. -/
theorem every_task_runs_once
    (count : Nat)
    (moves : List Move)
    {shift : Shift}
    (reached : (start count).run moves = shift) :
    (∀ task : TaskId, shift.calls[task]? = some (.returned .inline) →
      ∃ crashed, Event.about shift.log task =
        [.begun task .caller, .ended task .caller crashed]) ∧
    (∀ task : TaskId, shift.calls[task]? = some (.returned .queued) →
      (Event.about shift.log task = [.queued task] ∧ shift.crew.queue.count task = 1) ∨
      ∃ worker,
        (Event.about shift.log task = [.queued task, .begun task (.worker worker)] ∧
          shift.crew.task? worker = some task) ∨
        ∃ crashed, Event.about shift.log task =
          [.queued task, .begun task (.worker worker), .ended task (.worker worker) crashed]) ∧
    ((∀ worker ∈ shift.crew.workers, worker = .exited) →
      shift.crew.queue = [] ∧
      ∀ task : TaskId, shift.calls[task]? = some (.returned .queued) →
        ∃ worker crashed, Event.about shift.log task =
          [.queued task, .begun task (.worker worker), .ended task (.worker worker) crashed]) ∧
    (shift.crew.size = count ∧
      (.exited ∈ shift.crew.workers → shift.crew.isRunning = false) ∧
      ∀ index task, shift.crew.task? index = some task →
        (shift.advance (.finish index true)).crew.workers[index]? = some .starting) ∧
    ((∀ call ∈ shift.calls, ∃ dispatch, call = .returned dispatch) →
      shift.crew.queuedRuns + shift.crew.inlineRuns = shift.calls.length) ∧
    shift.crew.panics = shift.log.countP Event.isCrash ∧
    ∀ between later closing last, shift.run (.halt :: between ++ [.wakeAll]) = closing →
      closing.run later = last →
      last.crew.stepsLeft + closing.workersSteps later = closing.crew.stepsLeft ∧
      (last.crew.stepsLeft = 0 ↔ ∀ worker ∈ last.crew.workers, worker = .exited) ∧
      ∀ worker ∈ last.crew.workers, worker ≠ .exited →
        ∃ move, last.isWorkersStep move = true := by
  subst reached
  have manned : ((start count).run moves).crew.Manned := manned_run (manned_new count) moves
  have tallied := run_of_advance Tallied (fun _ move kept => kept.advance move)
    (tallied_start count) moves
  have isOpen : ((start count).run moves).crew.Open :=
    run_of_advance (·.crew.Open) (fun shift move kept => kept.step (shift.step_advance move))
      (open_new count) moves
  have size : ((start count).run moves).crew.size = count :=
    run_of_advance (·.crew.size = count)
      (fun shift move kept => (shift.step_advance move).lasts.size.trans kept)
      (size_new count) moves
  have now := fun task => (at_start count task).run moves
  refine ⟨fun task returned => ?_, fun task returned => ?_, fun exited => ?_,
    ⟨size, isOpen, fun index task busy => starting_of_finish busy true⟩,
    tallied.runs_eq, tallied.panics, ?_⟩
  · obtain ⟨_, now⟩ := now task
    exact now.events_of_inline returned
  · obtain ⟨_, now⟩ := now task
    exact now.events_of_queued returned
  · refine ⟨manned.queue_eq_nil exited, fun task returned => ?_⟩
    obtain ⟨_, now⟩ := now task
    exact now.ended_of_exited returned manned exited
  · rintro between later _ _ rfl rfl
    have stopped := closing_stopped ((start count).run moves) between
    obtain ⟨last, left⟩ := closing_run stopped later
    exact ⟨left, (manned_run (manned_run manned _) later).stepsLeft_eq_zero_iff,
      fun _ => exists_workersStep last⟩

/-- A worker and a caller run a task each, and both crash; the crew is stopped with a task in
the queue, which the worker runs before it exits. -/
def lastMoves : List Move :=
  [.look 0, .invoke 0, .invoke 0, .count 0, .count 1, .finishCall 1 true, .look 0, .finish 0 true,
    .look 0, .invoke 0, .count 2, .halt, .wakeAll, .look 0, .finish 0 false, .look 0]

/-- A crew is stopped with a task in the queue, and two of its three tasks crash. -/
theorem every_task_runs_once_closing :
    ∃ shift, (start 1).run lastMoves = shift ∧
      Event.about shift.log 1 = [.begun 1 .caller, .ended 1 .caller true] ∧
      (∃ worker crashed, Event.about shift.log 2 =
        [.queued 2, .begun 2 (.worker worker), .ended 2 (.worker worker) crashed]) ∧
      shift.crew.queue = [] ∧
      shift.crew.panics = 2 ∧
      shift.crew.queuedRuns + shift.crew.inlineRuns = 3 := by
  obtain ⟨-, -, exited, -, runs, panics, -⟩ := every_task_runs_once 1 lastMoves rfl
  obtain ⟨queue, queued⟩ := exited (by decide)
  refine ⟨_, rfl, by decide, queued 2 (by decide), queue, panics.trans (by decide), ?_⟩
  refine (runs fun call member => ?_).trans (by decide)
  have calls : ((start 1).run lastMoves).calls =
    [.returned .queued, .returned .inline, .returned .queued] := by decide
  rw [calls] at member
  simp only [List.mem_cons, List.not_mem_nil, or_false] at member
  obtain rfl | rfl | rfl := member <;> exact ⟨_, rfl⟩

end Shift
end Crew
end FragmentCache
