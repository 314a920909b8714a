import FragmentCache.Proofs.Page.Tasks

/-!
# Tasks in any order of moves

Any number of threads offer tasks to a crew; a task is left to a worker or run by the caller
itself.  What each of them does under the lock is one move, and so are counting, beginning
and ending a task, waking for no reason, and the two steps of stopping the crew.  Whatever
their order, every task is run once, and nobody is needed who will not be woken.
-/

namespace FragmentCache
namespace Crew

/-- Where a call is after its offer. -/
inductive Call where
  /-- About to count the offer. -/
  | counting (dispatch : Dispatch)
  /-- At work on its own task. -/
  | running
  | returned (dispatch : Dispatch)
  deriving DecidableEq

/-- A crew with the calls that have offered it tasks, and what happened to the tasks.  A task
has the number of its call, and its result is whether it crashed. -/
structure Shift where
  crew : Crew TaskId
  calls : List Call := []
  log : List (Event Bool) := []

/-- What somebody does next. -/
inductive Move where
  /-- A new call offers its task; some worker is chosen for a notice. -/
  | invoke (chosen : Nat)
  /-- A call counts its offer, and begins the task if it was left with it. -/
  | count (call : TaskId)
  /-- A call ends its own task. -/
  | finishCall (call : TaskId) (crashed : Bool)
  /-- A worker wakes for no reason. -/
  | stir (index : Nat)
  /-- A worker that is not busy does what it does under the lock. -/
  | look (index : Nat)
  /-- A worker ends its task. -/
  | finish (index : Nat) (crashed : Bool)
  | halt
  | wakeAll
  deriving DecidableEq

/-- What an offer leaves in the log. -/
def Dispatch.events (task : TaskId) : Dispatch → List (Event Bool)
  | queued => [.queued task]
  | inline => []

namespace Shift

/-- A crew whose workers have not looked for tasks, and no calls. -/
def start (count : Nat) : Shift := { crew := new count }

/-- Make a move. -/
def advance (shift : Shift) : Move → Shift
  | .invoke chosen =>
    let offered := shift.crew.offer chosen shift.calls.length
    { crew := offered.1
      calls := shift.calls ++ [.counting offered.2]
      log := shift.log ++ offered.2.events shift.calls.length }
  | .count call =>
    match shift.calls[call]? with
    | some (.counting .queued) =>
      { shift with
        crew := shift.crew.countOffer .queued, calls := shift.calls.set call (.returned .queued) }
    | some (.counting .inline) =>
      { crew := shift.crew.countOffer .inline
        calls := shift.calls.set call .running
        log := shift.log ++ [.begun call .caller] }
    | _ => shift
  | .finishCall call crashed =>
    match shift.calls[call]? with
    | some .running =>
      { crew := shift.crew.countEnd crashed
        calls := shift.calls.set call (.returned .inline)
        log := shift.log ++ [.ended call .caller crashed] }
    | _ => shift
  | .stir index => { shift with crew := shift.crew.stir index }
  | .look index =>
    { shift with
      crew := shift.crew.step index, log := shift.log ++ shift.crew.beginnings index }
  | .finish index crashed =>
    match shift.crew.task? index with
    | some task =>
      { shift with
        crew := shift.crew.finish index crashed
        log := shift.log ++ [.ended task (.worker index) crashed] }
    | none => shift
  | .halt => { shift with crew := shift.crew.halt }
  | .wakeAll => { shift with crew := shift.crew.wakeAll }

/-- Make moves one after the other. -/
def run (shift : Shift) (moves : List Move) : Shift := moves.foldl advance shift

variable {shift : Shift} {move : Move}

theorem run_append (shift : Shift) (moves more : List Move) :
    shift.run (moves ++ more) = (shift.run moves).run more :=
  List.foldl_append

/-- What every move keeps, a run keeps. -/
theorem run_of_advance
    (kept : Shift → Prop)
    (step : ∀ shift move, kept shift → kept (shift.advance move))
    (before : kept shift)
    (moves : List Move) :
    kept (shift.run moves) := by
  induction moves generalizing shift with
  | nil => exact before
  | cons move rest inductionHypothesis => exact inductionHypothesis (step _ move before)

/-! ## Nobody is needed who will not be woken -/

/-- A move is one step of the crew. -/
theorem step_advance (shift : Shift) (move : Move) : shift.crew.Step (shift.advance move).crew := by
  cases move with
  | invoke chosen => exact .offered chosen _
  | count call =>
      rw [advance]
      split
      · exact .offerCounted .queued
      · exact .offerCounted .inline
      · exact .unchanged
  | finishCall call crashed =>
      rw [advance]
      split
      · exact .endCounted crashed
      · exact .unchanged
  | stir index => exact .stirred index
  | look index => exact .turned (shift.crew.turn_step index)
  | finish index crashed =>
      rw [advance]
      split
      · exact .finished index crashed
      · exact .unchanged
  | halt => exact .halted
  | wakeAll => exact .allWoken

/-- After any moves enough workers are awake for the tasks that are queued. -/
theorem manned_run (manned : shift.crew.Manned) (moves : List Move) :
    (shift.run moves).crew.Manned :=
  run_of_advance (·.crew.Manned) (fun shift move manned => manned.step (shift.step_advance move))
    manned moves

/-- In whatever order moves come: there are no more tasks in the queue than idle workers, the
idle workers are those counted and the number can be lowered for each of them, and enough of
them are awake for all queued tasks, so that somebody takes the oldest one in its next
step. -/
theorem queued_le_woken
    (count : Nat)
    (moves : List Move)
    {crew : Crew TaskId}
    (reached : ((start count).run moves).crew = crew) :
    crew.queue.length ≤ crew.idle ∧
    crew.idle = crew.workers.countP Worker.isIdle ∧
    (∀ (index : Nat) (worker : Worker TaskId), crew.workers[index]? = some worker →
      worker.isIdle = true → 0 < crew.idle) ∧
    crew.queue.length ≤ crew.workers.countP Worker.isWoken ∧
    ∀ task queue, crew.queue = task :: queue →
      ∃ index : Nat, crew.workers[index]? = some .woken ∧
        (crew.step index).task? index = some task := by
  have manned : crew.Manned := reached ▸ manned_run (manned_new count) moves
  exact ⟨manned.queued_le_idle, manned.idle, fun _ _ => manned.idle_pos, manned.queued,
    fun _ _ => manned.exists_taker⟩

/-- A worker that comes by takes the task that another one was woken for, and the notice for
the next task finds nobody parked. -/
def passingMoves : List Move := [.look 0, .invoke 0, .look 1, .invoke 0]

/-- A task waits in the queue while a worker that was woken for it is on its way. -/
theorem queued_le_woken_passing :
    ((start 2).run passingMoves).crew.queue = [1] ∧
      ((start 2).run passingMoves).crew.workers = [.woken, .busy 0] ∧
      ((start 2).run passingMoves).crew.idle = 1 ∧
      ∃ index : Nat, ((start 2).run passingMoves).crew.workers[index]? = some .woken ∧
        (((start 2).run passingMoves).crew.step index).task? index = some 1 := by
  have queued : ((start 2).run passingMoves).crew.queue = [1] := by decide
  obtain ⟨-, idle, -, -, taker⟩ := queued_le_woken 2 passingMoves rfl
  exact ⟨queued, by decide, idle.trans (by decide), taker 1 [] queued⟩

/-! ## What happens to a task -/

/-- Where a task is according to its call. -/
def Fits : Option Call → Progress Bool → Prop
  | none, progress => progress = .ahead
  | some (.counting .inline), progress => progress = .ahead
  | some .running, progress => progress = .begun .caller
  | some (.returned .inline), progress => ∃ crashed, progress = .ended .caller crashed
  | some (.counting .queued), progress => progress.isWithCrew = true
  | some (.returned .queued), progress => progress.isWithCrew = true

/-- Where a task is according to the crew, the log and its call. -/
structure At (shift : Shift) (task : TaskId) (progress : Progress Bool) : Prop where
  tracks : shift.crew.Tracks task progress
  events : Event.about shift.log task = progress.events task
  call : Fits shift.calls[task]? progress

variable {task : TaskId} {progress : Progress Bool}

theorem at_start (count : Nat) (task : TaskId) : (start count).At task .ahead where
  tracks := tracks_new count task
  events := rfl
  call := rfl

/-- A call that has left its task to the crew fits wherever the crew has it. -/
theorem fits_of_isWithCrew
    {call : Option Call}
    {next : Progress Bool}
    (fits : Fits call progress)
    (before : progress.isWithCrew = true)
    (after : next.isWithCrew = true) :
    Fits call next := by
  rcases call with _ | ⟨_ | _⟩ | _ | ⟨_ | _⟩
  · cases fits
    cases before
  · exact after
  · cases fits
    cases before
  · cases fits
    cases before
  · exact after
  · obtain ⟨crashed, rfl⟩ := fits
    cases before

theorem At.invoke (now : shift.At task progress) (chosen : Nat) :
    ∃ progress, (shift.advance (.invoke chosen)).At task progress := by
  obtain ⟨tracks, events, call⟩ := now
  rw [Shift.advance]
  by_cases same : shift.calls.length = task
  · subst same
    rw [List.getElem?_eq_none (Nat.le_refl _)] at call
    cases call
    cases dispatched : (shift.crew.offer chosen shift.calls.length).2 with
    | queued =>
        refine ⟨.queued, tracks.offer dispatched, ?_, ?_⟩
        · exact Progress.events_concat events rfl rfl
        · rw [List.getElem?_concat_length]
          rfl
    | inline =>
        refine ⟨.ahead, ?_, ?_, ?_⟩
        · rwa [offer_of_inline dispatched]
        · exact (congrArg (Event.about · _) (List.append_nil shift.log)).trans events
        · rw [List.getElem?_concat_length]
          rfl
  · refine ⟨progress, tracks.offer_other same chosen, ?_, ?_⟩
    · dsimp only
      cases (shift.crew.offer chosen shift.calls.length).2 with
      | queued => exact (Event.about_concat_of_ne shift.log (.queued _) same).trans events
      | inline => exact (congrArg (Event.about · task) (List.append_nil shift.log)).trans events
    · obtain inside | outside := Nat.lt_or_gt_of_ne same
      · rw [List.getElem?_eq_none (Nat.le_of_lt inside)] at call
        rwa [List.getElem?_eq_none (by simpa [Nat.succ_le_iff] using inside)]
      · rwa [List.getElem?_append_left outside]

/-- A call goes on, and leaves the tasks of all others alone. -/
theorem At.of_ne
    (now : shift.At task progress)
    {call : TaskId}
    (differ : call ≠ task)
    {crew : Crew TaskId}
    (tracks : crew.Tracks task progress)
    (stage : Call)
    (event : Event Bool)
    (same : event.task = call) :
    At { crew, calls := shift.calls.set call stage, log := shift.log ++ [event] } task
      progress where
  tracks := tracks
  events := (Event.about_concat_of_ne shift.log event (same ▸ differ)).trans now.events
  call := by
    rw [List.getElem?_set_ne differ]
    exact now.call

theorem At.count (now : shift.At task progress) (call : TaskId) :
    ∃ progress, (shift.advance (.count call)).At task progress := by
  rw [Shift.advance]
  split
  · next counting =>
      refine ⟨progress, now.tracks.countOffer .queued, now.events, ?_⟩
      by_cases same : call = task
      · subst same
        have fits := now.call
        rw [counting] at fits
        rw [List.getElem?_set_self (List.getElem?_eq_some_iff.1 counting).1]
        exact fits
      · rw [List.getElem?_set_ne same]
        exact now.call
  · next counting =>
      by_cases same : call = task
      · subst same
        have fits := now.call
        rw [counting] at fits
        cases fits
        refine ⟨.begun .caller, (now.tracks.countOffer .inline).begin, ?_, ?_⟩
        · exact Progress.events_concat now.events rfl rfl
        · rw [List.getElem?_set_self (List.getElem?_eq_some_iff.1 counting).1]
          rfl
      · exact ⟨progress,
          now.of_ne same (now.tracks.countOffer .inline) .running (.begun call .caller) rfl⟩
  · exact ⟨progress, now⟩

theorem At.finishCall (now : shift.At task progress) (call : TaskId) (crashed : Bool) :
    ∃ progress, (shift.advance (.finishCall call crashed)).At task progress := by
  rw [Shift.advance]
  split
  · next running =>
      by_cases same : call = task
      · subst same
        have fits := now.call
        rw [running] at fits
        cases fits
        refine ⟨.ended .caller crashed, (now.tracks.countEnd crashed).finishCall crashed, ?_, ?_⟩
        · exact Progress.events_concat now.events rfl rfl
        · rw [List.getElem?_set_self (List.getElem?_eq_some_iff.1 running).1]
          exact ⟨crashed, rfl⟩
      · exact ⟨progress, now.of_ne same (now.tracks.countEnd crashed) (.returned .inline)
          (.ended call .caller crashed) rfl⟩
  · exact ⟨progress, now⟩

theorem At.look (now : shift.At task progress) (index : Nat) :
    ∃ progress, (shift.advance (.look index)).At task progress := by
  rw [Shift.advance]
  by_cases taken : shift.crew.taken? index = some task
  · have queued := now.tracks.isQueued_of_taken taken
    cases progress with
    | queued =>
        refine ⟨.begun (.worker index), now.tracks.step_taken taken, ?_, ?_⟩
        · rw [beginnings_of_taken taken]
          exact Progress.events_concat now.events rfl rfl
        · exact fits_of_isWithCrew now.call rfl rfl
    | _ => cases queued
  · exact ⟨progress, now.tracks.step_other taken,
      (about_append_beginnings taken shift.log).trans now.events, now.call⟩

theorem At.finish (now : shift.At task progress) (index : Nat) (crashed : Bool) :
    ∃ progress, (shift.advance (.finish index crashed)).At task progress := by
  rw [Shift.advance]
  split
  · next other busy =>
      by_cases same : other = task
      · subst same
        have begun := (now.tracks.busy index).1 busy
        subst begun
        refine ⟨.ended (.worker index) crashed, now.tracks.finish busy crashed crashed, ?_, ?_⟩
        · exact Progress.events_concat now.events rfl rfl
        · exact fits_of_isWithCrew now.call rfl rfl
      · refine ⟨progress, now.tracks.finish_other ?_ crashed, ?_, now.call⟩
        · rw [busy]
          simpa using same
        · exact (Event.about_concat_of_ne shift.log (.ended other _ crashed) same).trans now.events
  · exact ⟨progress, now⟩

/-- Wherever a task was, it is somewhere after a move. -/
theorem At.advance (now : shift.At task progress) (move : Move) :
    ∃ progress, (shift.advance move).At task progress := by
  cases move with
  | invoke chosen => exact now.invoke chosen
  | count call => exact now.count call
  | finishCall call crashed => exact now.finishCall call crashed
  | stir index => exact ⟨progress, now.tracks.stir index, now.events, now.call⟩
  | look index => exact now.look index
  | finish index crashed => exact now.finish index crashed
  | halt => exact ⟨progress, now.tracks.halt, now.events, now.call⟩
  | wakeAll => exact ⟨progress, now.tracks.wakeAll, now.events, now.call⟩

/-- Wherever a task was, it is somewhere after any moves. -/
theorem At.run (now : shift.At task progress) (moves : List Move) :
    ∃ progress, (shift.run moves).At task progress :=
  run_of_advance (∃ progress, At · task progress) (fun _ move ⟨_, now⟩ => now.advance move)
    ⟨progress, now⟩ moves

end Shift
end Crew
end FragmentCache
