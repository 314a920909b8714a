import FragmentCache.Proofs.Page.Shift

/-!
# Counts of a crew

A crew counts what it was offered and which tasks crashed.  Most of what is done under the
lock only moves tasks and workers.  The counts agree with what the calls have come to and
with the log, no worker is added or removed, and none exits before the crew was halted.
-/

namespace FragmentCache
namespace Crew

section

variable {α : Type} {crew next : Crew α} {index : Nat}

/-! ## What is left as it was -/

/-- Crews that differ only in where workers and tasks are. -/
structure Alike (crew next : Crew α) : Prop where
  isRunning : next.isRunning = crew.isRunning
  size : next.size = crew.size
  queuedRuns : next.queuedRuns = crew.queuedRuns
  inlineRuns : next.inlineRuns = crew.inlineRuns
  panics : next.panics = crew.panics

theorem Alike.refl (crew : Crew α) : crew.Alike crew := ⟨rfl, rfl, rfl, rfl, rfl⟩

theorem alike_setWorker (crew : Crew α) (index : Nat) (worker : Worker α) :
    crew.Alike (crew.setWorker index worker) :=
  ⟨rfl, size_setWorker crew index worker, rfl, rfl, rfl⟩

theorem length_notice {workers noticed : List (Worker α)} (notice : Notice workers noticed) :
    noticed.length = workers.length := by
  cases notice with
  | nobody awake => rfl
  | woken index parked => exact List.length_set

theorem alike_offer (crew : Crew α) (chosen : Nat) (task : α) :
    crew.Alike (crew.offer chosen task).1 := by
  obtain ⟨-, -, workers, notice, offered⟩ | refused := crew.offer_cases chosen task
  · rw [offered]
    exact ⟨rfl, length_notice notice, rfl, rfl, rfl⟩
  · rw [refused]
    exact .refl crew

theorem alike_stir (crew : Crew α) (index : Nat) : crew.Alike (crew.stir index) := by
  obtain ⟨-, woken⟩ | same := crew.stir_cases index
  · rw [woken]
    exact alike_setWorker crew index .woken
  · rw [same]
    exact .refl crew

theorem alike_wakeAll (crew : Crew α) : crew.Alike crew.wakeAll :=
  ⟨rfl, size_wakeAll crew, rfl, rfl, rfl⟩

/-- A worker's turn counts nothing. -/
theorem alike_turn (turn : crew.Turn index next) : crew.Alike next := by
  cases turn with
  | rest => exact .refl crew
  | took => exact ⟨rfl, List.length_set, rfl, rfl, rfl⟩
  | parked => exact ⟨rfl, List.length_set, rfl, rfl, rfl⟩
  | exited => exact ⟨rfl, List.length_set, rfl, rfl, rfl⟩

/-- The end of a task counts what `countEnd` counts. -/
theorem alike_finish
    {task : α}
    (busy : crew.task? index = some task)
    (crashed : Bool) :
    (crew.countEnd crashed).Alike (crew.finish index crashed) := by
  rw [finish_of_task? busy]
  exact alike_setWorker (crew.countEnd crashed) index .starting

/-! ## Workers that have exited -/

/-- A worker exits only when the crew was halted. -/
def Open (crew : Crew α) : Prop := .exited ∈ crew.workers → crew.isRunning = false

theorem open_new (count : Nat) : (new count : Crew α).Open := by
  intro member
  cases List.eq_of_mem_replicate member

theorem Open.set
    (before : crew.Open)
    (sameRunning : next.isRunning = crew.isRunning)
    {worker : Worker α}
    (set : next.workers = crew.workers.set index worker)
    (remains : worker ≠ .exited) :
    next.Open := by
  intro member
  rw [set] at member
  obtain here | new := List.mem_or_eq_of_mem_set member
  · exact sameRunning.trans (before here)
  · exact absurd new.symm remains

theorem Open.offer (before : crew.Open) (chosen : Nat) (task : α) :
    (crew.offer chosen task).1.Open := by
  obtain ⟨-, -, workers, notice, offered⟩ | refused := crew.offer_cases chosen task
  · rw [offered]
    cases notice with
    | nobody awake => exact before
    | woken index parked => exact before.set rfl rfl nofun
  · rw [refused]
    exact before

theorem Open.stir (before : crew.Open) (index : Nat) : (crew.stir index).Open := by
  obtain ⟨-, woken⟩ | same := crew.stir_cases index
  · rw [woken]
    exact before.set rfl rfl nofun
  · rw [same]
    exact before

/-- No worker exits in its turn unless the crew was halted. -/
theorem Open.turn (before : crew.Open) (turn : crew.Turn index next) : next.Open := by
  cases turn with
  | rest => exact before
  | took => exact before.set rfl rfl nofun
  | parked => exact before.set rfl rfl nofun
  | exited here seeking unqueued halted => exact fun _ => halted

theorem Open.finish (before : crew.Open) (index : Nat) (crashed : Bool) :
    (crew.finish index crashed).Open := by
  cases busy : crew.task? index with
  | none =>
      rw [finish_of_not_busy busy]
      exact before
  | some task =>
      rw [finish_of_task? busy]
      exact before.set rfl rfl nofun

theorem Open.wakeAll (before : crew.Open) : crew.wakeAll.Open := by
  intro member
  obtain ⟨worker, here, exited⟩ := List.mem_map.1 member
  cases worker with
  | exited => exact before here
  | _ => cases exited

/-- Whatever step a crew takes, its workers exit only when it was halted. -/
theorem Open.step (before : crew.Open) (step : crew.Step next) : next.Open := by
  cases step with
  | unchanged => exact before
  | offered chosen task => exact before.offer chosen task
  | offerCounted dispatch => cases dispatch <;> exact before
  | endCounted crashed => exact before
  | turned turn => exact before.turn turn
  | finished index crashed => exact before.finish index crashed
  | stirred index => exact before.stir index
  | halted => exact fun _ => rfl
  | allWoken => exact before.wakeAll

/-! ## What every step keeps -/

/-- No worker is added or removed, and a crew that was halted stays so. -/
structure Lasts (crew next : Crew α) : Prop where
  size : next.size = crew.size
  halted : crew.isRunning = false → next.isRunning = false

theorem Alike.lasts (alike : crew.Alike next) : crew.Lasts next :=
  ⟨alike.size, alike.isRunning.trans⟩

/-- No step of a crew takes its counters back. -/
theorem Step.lasts (step : crew.Step next) : crew.Lasts next := by
  cases step with
  | unchanged => exact (Alike.refl crew).lasts
  | offered chosen task => exact (alike_offer crew chosen task).lasts
  | offerCounted dispatch => cases dispatch <;> exact ⟨rfl, id⟩
  | endCounted crashed => exact ⟨rfl, id⟩
  | turned turn => exact (alike_turn turn).lasts
  | finished index crashed =>
      cases busy : crew.task? index with
      | none =>
          rw [finish_of_not_busy busy]
          exact (Alike.refl crew).lasts
      | some task =>
          have alike := alike_finish busy crashed
          exact ⟨alike.size, alike.isRunning.trans⟩
  | stirred index => exact (alike_stir crew index).lasts
  | halted => exact ⟨rfl, fun _ => rfl⟩
  | allWoken => exact (alike_wakeAll crew).lasts

end

/-! ## What calls and the log say -/

/-- Whether a call has counted that its task was left to a worker. -/
def Call.isQueued : Call → Bool
  | returned .queued => true
  | _ => false

/-- Whether a call has counted that its task was left with it. -/
def Call.isInline : Call → Bool
  | running | returned .inline => true
  | _ => false

/-- Whether an event is the crash of a task. -/
def Event.isCrash : Event Bool → Bool
  | ended _ _ crashed => crashed
  | _ => false

namespace Shift

variable {shift : Shift}

/-- The counts of a crew are those of its calls and of the log. -/
structure Tallied (shift : Shift) : Prop where
  queuedRuns : shift.crew.queuedRuns = shift.calls.countP Call.isQueued
  inlineRuns : shift.crew.inlineRuns = shift.calls.countP Call.isInline
  panics : shift.crew.panics = shift.log.countP Event.isCrash

/-- Nothing changes that is counted. -/
theorem Tallied.congr
    (tallied : shift.Tallied)
    {next : Shift}
    (alike : shift.crew.Alike next.crew)
    (sameQueued : next.calls.countP Call.isQueued = shift.calls.countP Call.isQueued)
    (sameInline : next.calls.countP Call.isInline = shift.calls.countP Call.isInline)
    (sameCrashes : next.log.countP Event.isCrash = shift.log.countP Event.isCrash) :
    next.Tallied where
  queuedRuns := by rw [alike.queuedRuns, tallied.queuedRuns, sameQueued]
  inlineRuns := by rw [alike.inlineRuns, tallied.inlineRuns, sameInline]
  panics := by rw [alike.panics, tallied.panics, sameCrashes]

theorem Tallied.invoke (tallied : shift.Tallied) (chosen : Nat) :
    (shift.advance (.invoke chosen)).Tallied := by
  rw [advance]
  refine tallied.congr (alike_offer _ _ _) ?_ ?_ ?_
  · simp [Call.isQueued]
  · simp [Call.isInline]
  · cases (shift.crew.offer chosen shift.calls.length).2 <;>
      simp [Dispatch.events, Event.isCrash]

theorem Tallied.count (tallied : shift.Tallied) (call : TaskId) :
    (shift.advance (.count call)).Tallied := by
  obtain ⟨queuedRuns, inlineRuns, panics⟩ := tallied
  rw [advance]
  split
  · next counting =>
      have oneMore := countP_set_add counting (.returned .queued) Call.isQueued
      have noMore := countP_set_add counting (.returned .queued) Call.isInline
      exact ⟨(congrArg Nat.succ queuedRuns).trans oneMore.symm, inlineRuns.trans noMore.symm,
        panics⟩
  · next counting =>
      have noMore := countP_set_add counting .running Call.isQueued
      have oneMore := countP_set_add counting .running Call.isInline
      refine ⟨queuedRuns.trans noMore.symm, (congrArg Nat.succ inlineRuns).trans oneMore.symm, ?_⟩
      rw [List.countP_append]
      exact panics
  · exact ⟨queuedRuns, inlineRuns, panics⟩

/-- A crash is counted when the task ends. -/
theorem panics_countEnd
    (tallied : shift.Tallied)
    (task : TaskId)
    (runner : Runner)
    (crashed : Bool) :
    (shift.crew.countEnd crashed).panics =
      (shift.log ++ [Event.ended task runner crashed]).countP Event.isCrash := by
  rw [countEnd, tallied.panics, List.countP_append]
  cases crashed <;> rfl

theorem Tallied.finishCall (tallied : shift.Tallied) (call : TaskId) (crashed : Bool) :
    (shift.advance (.finishCall call crashed)).Tallied := by
  rw [advance]
  split
  · next running =>
      have noneQueued := countP_set_add running (.returned .inline) Call.isQueued
      have sameInline := countP_set_add running (.returned .inline) Call.isInline
      exact ⟨tallied.queuedRuns.trans noneQueued.symm,
        tallied.inlineRuns.trans (Nat.add_right_cancel sameInline).symm,
        panics_countEnd tallied call .caller crashed⟩
  · exact tallied

theorem Tallied.look (tallied : shift.Tallied) (index : Nat) :
    (shift.advance (.look index)).Tallied := by
  refine tallied.congr (alike_turn (shift.crew.turn_step index)) rfl rfl ?_
  rw [advance, beginnings]
  cases shift.crew.taken? index <;> simp [Event.isCrash]

theorem Tallied.finish (tallied : shift.Tallied) (index : Nat) (crashed : Bool) :
    (shift.advance (.finish index crashed)).Tallied := by
  rw [advance]
  split
  · next task busy =>
      obtain ⟨-, -, sameQueued, sameInline, samePanics⟩ := alike_finish busy crashed
      exact ⟨sameQueued.trans tallied.queuedRuns, sameInline.trans tallied.inlineRuns,
        samePanics.trans (panics_countEnd tallied task (.worker index) crashed)⟩
  · exact tallied

/-- Every move keeps the counters equal to the numbers of events. -/
theorem Tallied.advance (tallied : shift.Tallied) (move : Move) :
    (shift.advance move).Tallied := by
  cases move with
  | invoke chosen => exact tallied.invoke chosen
  | count call => exact tallied.count call
  | finishCall call crashed => exact tallied.finishCall call crashed
  | stir index => exact tallied.congr (alike_stir _ index) rfl rfl rfl
  | look index => exact tallied.look index
  | finish index crashed => exact tallied.finish index crashed
  | halt => exact ⟨tallied.queuedRuns, tallied.inlineRuns, tallied.panics⟩
  | wakeAll => exact tallied.congr (alike_wakeAll _) rfl rfl rfl

theorem tallied_start (count : Nat) : (start count).Tallied := ⟨rfl, rfl, rfl⟩

end Shift
end Crew
end FragmentCache
