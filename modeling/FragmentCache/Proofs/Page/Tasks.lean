import FragmentCache.Proofs.Page.Crew

/-!
# Where tasks are

A task that a crew takes is queued once, then with one worker, then done; a task that it does
not take is with the caller and then done.  Where a task is shows in the crew, and what
happened to it until then is determined by it.
-/

namespace FragmentCache
namespace Crew

/-- Number of a task. -/
abbrev TaskId := Nat

/-- Who runs a task. -/
inductive Runner where
  | caller
  | worker (index : Nat)
  deriving DecidableEq

/-- What happens to a task that has a result of type `ρ`. -/
inductive Event (ρ : Type) where
  /-- It is left to the workers. -/
  | queued (task : TaskId)
  | begun (task : TaskId) (runner : Runner)
  | ended (task : TaskId) (runner : Runner) (result : ρ)
  deriving DecidableEq

/-- How far a task is. -/
inductive Progress (ρ : Type) where
  /-- Nothing has happened to it. -/
  | ahead
  | queued
  | begun (runner : Runner)
  | ended (runner : Runner) (result : ρ)

variable {ρ : Type}

namespace Event

/-- The task of an event. -/
def task : Event ρ → TaskId
  | queued task => task
  | begun task _ => task
  | ended task _ _ => task

/-- The events of one task. -/
def about (events : List (Event ρ)) (task : TaskId) : List (Event ρ) :=
  events.filter fun event => event.task == task

theorem about_singleton (event : Event ρ) : about [event] event.task = [event] := by
  simp [about]

theorem about_singleton_of_ne
    (event : Event ρ)
    {task : TaskId}
    (differ : event.task ≠ task) :
    about [event] task = [] := by
  simp [about, differ]

theorem about_concat_of_ne
    (events : List (Event ρ))
    (event : Event ρ)
    {task : TaskId}
    (differ : event.task ≠ task) :
    about (events ++ [event]) task = about events task := by
  simp [about, differ]

end Event

/-- What happens to a task before it is begun. -/
def Runner.handOver (task : TaskId) : Runner → List (Event ρ)
  | caller => []
  | worker _ => [.queued task]

/-- What has happened to a task so far. -/
def Progress.events (task : TaskId) : Progress ρ → List (Event ρ)
  | ahead => []
  | queued => [.queued task]
  | begun runner => runner.handOver task ++ [.begun task runner]
  | ended runner result => runner.handOver task ++ [.begun task runner, .ended task runner result]

/-- One more event of a task takes it further. -/
theorem Progress.events_concat
    {log : List (Event ρ)}
    {event : Event ρ}
    {task : TaskId}
    {before after : Progress ρ}
    (events : Event.about log task = before.events task)
    (same : event.task = task)
    (next : before.events task ++ [event] = after.events task) :
    Event.about (log ++ [event]) task = after.events task := by
  rw [← next, ← events]
  simp [Event.about, same]

/-- Whether a task is queued. -/
def Progress.isQueued : Progress ρ → Bool
  | queued => true
  | _ => false

/-- Whether a task was left to the workers. -/
def Progress.isWithCrew : Progress ρ → Bool
  | queued => true
  | begun (.worker _) => true
  | ended (.worker _) _ => true
  | _ => false

/-- Where a task is in a crew. -/
structure Tracks (crew : Crew TaskId) (task : TaskId) (progress : Progress ρ) : Prop where
  queued : crew.queue.count task = progress.isQueued.toNat
  busy : ∀ index, crew.task? index = some task ↔ progress = .begun (.worker index)

variable
  {crew next : Crew TaskId}
  {task other : TaskId}
  {index : Nat}
  {progress : Progress ρ}

theorem tracks_new (count : Nat) (task : TaskId) :
    (new count).Tracks task (.ahead : Progress ρ) where
  queued := rfl
  busy index := by
    rw [task?_eq_some_iff]
    constructor
    · intro busy
      cases List.eq_of_mem_replicate (List.mem_of_getElem? busy)
    · exact nofun

/-- A task that is not queued by its progress is not in the queue. -/
theorem Tracks.not_queued
    (tracks : crew.Tracks task progress)
    (unqueued : progress.isQueued = false) :
    task ∉ crew.queue := by
  rw [← List.count_eq_zero, tracks.queued, unqueued]
  rfl

/-- A crew with the same tasks has them at the same places. -/
theorem Tracks.congr
    (tracks : crew.Tracks task progress)
    (sameQueue : next.queue = crew.queue)
    (sameTasks : ∀ index, next.task? index = crew.task? index) :
    next.Tracks task progress where
  queued := by rw [sameQueue, tracks.queued]
  busy index := by rw [sameTasks, tracks.busy]

/-! ## Steps that move no task -/

/-- A worker that turns to something else leaves the tasks of the others alone. -/
theorem task?_set
    {workers : List (Worker TaskId)}
    {old : Worker TaskId}
    {place : Nat}
    (here : workers[place]? = some old)
    (new : Worker TaskId)
    (index : Nat) :
    (workers.set place new)[index]?.bind Worker.task? =
      if index = place then new.task? else workers[index]?.bind Worker.task? := by
  split
  · next same =>
      subst same
      obtain ⟨inside, -⟩ := List.getElem?_eq_some_iff.1 here
      rw [List.getElem?_set_self inside, Option.bind_some]
  · next differ => rw [List.getElem?_set_ne (Ne.symm differ)]

theorem task?_set_of_eq
    {workers : List (Worker TaskId)}
    {old : Worker TaskId}
    {place : Nat}
    (here : workers[place]? = some old)
    (new : Worker TaskId)
    (same : old.task? = new.task?)
    (index : Nat) :
    (workers.set place new)[index]?.bind Worker.task? = workers[index]?.bind Worker.task? := by
  rw [task?_set here]
  split
  · next equal => rw [equal, here, Option.bind_some, ← same]
  · rfl

/-- A notice changes no worker's task. -/
theorem task?_notice
    {workers noticed : List (Worker TaskId)}
    (notice : Notice workers noticed)
    (index : Nat) :
    noticed[index]?.bind Worker.task? = workers[index]?.bind Worker.task? := by
  cases notice with
  | nobody awake => rfl
  | woken place parked => exact task?_set_of_eq parked .woken rfl index

theorem Tracks.stir (tracks : crew.Tracks task progress) (index : Nat) :
    (crew.stir index).Tracks task progress := by
  obtain ⟨parked, woken⟩ | same := crew.stir_cases index
  · rw [woken]
    refine tracks.congr rfl fun other => ?_
    rw [task?_eq, task?_eq]
    exact task?_set_of_eq parked .woken rfl other
  · rw [same]
    exact tracks

theorem Tracks.wakeAll (tracks : crew.Tracks task progress) :
    crew.wakeAll.Tracks task progress := by
  refine tracks.congr rfl fun index => ?_
  rw [task?_eq, task?_eq]
  change (crew.workers.map Worker.wake)[index]?.bind _ = _
  rw [List.getElem?_map]
  cases crew.workers[index]? with
  | none => rfl
  | some worker => cases worker <;> rfl

theorem Tracks.countOffer (tracks : crew.Tracks task progress) (dispatch : Dispatch) :
    (crew.countOffer dispatch).Tracks task progress := by
  cases dispatch <;> exact tracks.congr rfl fun _ => rfl

theorem Tracks.countEnd (tracks : crew.Tracks task progress) (crashed : Bool) :
    (crew.countEnd crashed).Tracks task progress :=
  tracks.congr rfl fun _ => rfl

theorem Tracks.halt (tracks : crew.Tracks task progress) : crew.halt.Tracks task progress :=
  tracks.congr rfl fun _ => rfl

/-! ## Tasks of callers -/

/-- A caller begins a task itself. -/
theorem Tracks.begin (tracks : crew.Tracks task (.ahead : Progress ρ)) :
    crew.Tracks task (.begun .caller : Progress ρ) where
  queued := tracks.queued
  busy index := by simp [tracks.busy]

/-- A caller ends a task that it began. -/
theorem Tracks.finishCall
    (tracks : crew.Tracks task (.begun .caller : Progress ρ))
    (result : ρ) :
    crew.Tracks task (.ended .caller result) where
  queued := tracks.queued
  busy index := by simp [tracks.busy]

/-! ## Steps that move a task -/

theorem offer_of_inline
    {chosen : Nat}
    (left : (crew.offer chosen task).2 = .inline) :
    (crew.offer chosen task).1 = crew := by
  obtain ⟨-, -, workers, -, offered⟩ | refused := crew.offer_cases chosen task
  · rw [offered] at left
    cases left
  · rw [refused]

/-- An offer gives no worker a task. -/
theorem task?_offer (crew : Crew TaskId) (chosen : Nat) (other : TaskId) (index : Nat) :
    (crew.offer chosen other).1.task? index = crew.task? index := by
  obtain ⟨-, -, workers, notice, offered⟩ | refused := crew.offer_cases chosen other
  · rw [offered, task?_eq, task?_eq]
    exact task?_notice notice index
  · rw [refused]

/-- An offer of another task leaves a task where it was. -/
theorem Tracks.offer_other
    (tracks : crew.Tracks task progress)
    (differ : other ≠ task)
    (chosen : Nat) :
    (crew.offer chosen other).1.Tracks task progress where
  queued := by
    obtain ⟨-, -, workers, -, offered⟩ | refused := crew.offer_cases chosen other
    · simp [offered, tracks.queued, differ]
    · rw [refused, tracks.queued]
  busy index := by rw [task?_offer, tracks.busy]

/-- A task that the crew takes is queued. -/
theorem Tracks.offer
    (tracks : crew.Tracks task (.ahead : Progress ρ))
    {chosen : Nat}
    (taken : (crew.offer chosen task).2 = .queued) :
    (crew.offer chosen task).1.Tracks task (.queued : Progress ρ) where
  queued := by
    obtain ⟨-, -, workers, -, offered⟩ | refused := crew.offer_cases chosen task
    · simp [offered, List.count_append, tracks.queued, Progress.isQueued]
    · rw [refused] at taken
      cases taken
  busy index := by
    rw [task?_offer, tracks.busy]
    simp

/-- The task that a worker begins in its next step. -/
def taken? (crew : Crew TaskId) (index : Nat) : Option TaskId :=
  if (crew.task? index).isSome then none else (crew.step index).task? index

/-- A worker that looks for a task has none. -/
theorem not_busy_of_isSeeking
    {worker : Worker TaskId}
    (here : crew.workers[index]? = some worker)
    (seeking : worker.isSeeking = true) :
    worker.task? = none ∧ crew.task? index = none := by
  have unbusy : worker.task? = none := by
    cases worker <;> simp_all [Worker.task?, Worker.isSeeking, Worker.isIdle]
  exact ⟨unbusy, by rw [task?_eq, here, Option.bind_some, unbusy]⟩

/-- A worker begins the oldest task or none, and leaves all other tasks alone. -/
theorem taken?_cases (crew : Crew TaskId) (index : Nat) :
    (crew.taken? index = none ∧ (crew.step index).queue = crew.queue ∧
      ∀ other, (crew.step index).task? other = crew.task? other) ∨
    ∃ task, crew.taken? index = some task ∧ crew.task? index = none ∧
      crew.queue = task :: (crew.step index).queue ∧
      ∀ other, (crew.step index).task? other =
        if other = index then some task else crew.task? other := by
  have turn := crew.turn_step index
  rw [taken?]
  generalize crew.step index = next at turn
  -- A worker that takes no task had none before.
  have idle : ∀ {worker new : Worker TaskId}, crew.workers[index]? = some worker →
      worker.isSeeking = true → new.task? = none → next.queue = crew.queue →
      next.workers = crew.workers.set index new →
      (if (crew.task? index).isSome = true then none else next.task? index) = none ∧
        next.queue = crew.queue ∧ ∀ other, next.task? other = crew.task? other := by
    intro worker new here seeking unbusy sameQueue set
    obtain ⟨workerUnbusy, crewUnbusy⟩ := not_busy_of_isSeeking here seeking
    have sameTasks : ∀ other, next.task? other = crew.task? other := by
      intro other
      rw [task?_eq, task?_eq, set]
      exact task?_set_of_eq here new (workerUnbusy.trans unbusy.symm) other
    exact ⟨by simp [sameTasks, crewUnbusy], sameQueue, sameTasks⟩
  cases turn with
  | rest unseeking =>
      refine .inl ⟨?_, rfl, fun _ => rfl⟩
      cases crew.task? index <;> rfl
  | @took worker task queue here seeking queued =>
      obtain ⟨-, unbusy⟩ := not_busy_of_isSeeking here seeking
      have tasks : ∀ other, Crew.task? { crew with
          queue, idle := crew.idle + worker.arrival - 1
          workers := crew.workers.set index (.busy task) } other =
            if other = index then some task else crew.task? other := by
        intro other
        rw [task?_eq, task?_eq]
        exact task?_set here (.busy task) other
      exact .inr ⟨task, by simp [unbusy, tasks], unbusy, queued, tasks⟩
  | parked here seeking unqueued running => exact .inl (idle here seeking rfl rfl rfl)
  | exited here seeking unqueued halted => exact .inl (idle here seeking rfl rfl rfl)

/-- What the next step of a worker leaves in a log. -/
def beginnings (crew : Crew TaskId) (index : Nat) : List (Event ρ) :=
  (crew.taken? index).toList.map fun task => .begun task (.worker index)

theorem beginnings_of_taken (taken : crew.taken? index = some task) :
    crew.beginnings index = ([.begun task (.worker index)] : List (Event ρ)) := by
  rw [beginnings, taken]
  rfl

/-- What a worker begins is recorded about the task it takes alone. -/
theorem about_append_beginnings
    (untaken : crew.taken? index ≠ some task)
    (events : List (Event ρ)) :
    Event.about (events ++ crew.beginnings index) task = Event.about events task := by
  cases taken : crew.taken? index with
  | none =>
      rw [beginnings, taken]
      exact congrArg (Event.about · task) (List.append_nil events)
  | some other =>
      rw [beginnings_of_taken taken]
      refine Event.about_concat_of_ne events (.begun other (.worker index)) fun same => ?_
      rw [taken] at untaken
      exact untaken (congrArg some same)

/-- A task that a worker takes was queued. -/
theorem Tracks.isQueued_of_taken
    (tracks : crew.Tracks task progress)
    (taken : crew.taken? index = some task) :
    progress.isQueued = true := by
  obtain ⟨none, -⟩ | ⟨other, some, -, queue, -⟩ := crew.taken?_cases index
  · rw [none] at taken
    cases taken
  · rw [some] at taken
    cases taken
    cases queued : progress.isQueued with
    | true => rfl
    | false =>
        apply absurd _ (tracks.not_queued queued)
        rw [queue]
        exact List.mem_cons_self

/-- A worker takes the task. -/
theorem Tracks.step_taken
    (tracks : crew.Tracks task progress)
    (taken : crew.taken? index = some task) :
    (crew.step index).Tracks task (.begun (.worker index) : Progress ρ) := by
  have queued := tracks.isQueued_of_taken taken
  obtain ⟨none, -⟩ | ⟨other, some, unbusy, queue, tasks⟩ := crew.taken?_cases index
  · rw [none] at taken
    cases taken
  · rw [some] at taken
    cases taken
    constructor
    · have once := tracks.queued
      rw [queue, List.count_cons_self, queued] at once
      exact Nat.succ.inj once
    · intro other
      rw [tasks]
      split
      · next same => simp [same]
      · next differ =>
          rw [tracks.busy]
          cases progress <;> simp_all [Progress.isQueued, eq_comm]

/-- A worker takes another task, or none. -/
theorem Tracks.step_other
    (tracks : crew.Tracks task progress)
    (untaken : crew.taken? index ≠ some task) :
    (crew.step index).Tracks task progress := by
  obtain ⟨-, sameQueue, sameTasks⟩ | ⟨other, taken, unbusy, queue, tasks⟩ :=
    crew.taken?_cases index
  · exact tracks.congr sameQueue sameTasks
  · rw [taken] at untaken
    constructor
    · rw [← tracks.queued, queue, List.count_cons_of_ne (by simpa using untaken)]
    · intro place
      rw [tasks, ← tracks.busy]
      split
      · next same => simpa [same, unbusy] using untaken
      · rfl

/-- The end of a task frees its worker alone. -/
theorem task?_finish
    (busy : crew.task? index = some task)
    (crashed : Bool)
    (place : Nat) :
    (crew.finish index crashed).task? place = if place = index then none else crew.task? place := by
  rw [finish_of_task? busy, task?_eq, task?_eq]
  exact task?_set (task?_eq_some_iff.1 busy) .starting place

theorem queue_finish (crew : Crew TaskId) (index : Nat) (crashed : Bool) :
    (crew.finish index crashed).queue = crew.queue := by
  rw [finish]
  split <;> rfl

/-- A worker ends its task. -/
theorem Tracks.finish
    (tracks : crew.Tracks task progress)
    (busy : crew.task? index = some task)
    (crashed : Bool)
    (result : ρ) :
    (crew.finish index crashed).Tracks task (.ended (.worker index) result) := by
  have begun := (tracks.busy index).1 busy
  constructor
  · rw [queue_finish, tracks.queued, begun]
    rfl
  · intro place
    rw [task?_finish busy]
    split
    · simp
    · next differ =>
        rw [tracks.busy, begun]
        simp [Ne.symm differ]

/-- A worker ends another task. -/
theorem Tracks.finish_other
    (tracks : crew.Tracks task progress)
    (differ : crew.task? index ≠ some task)
    (crashed : Bool) :
    (crew.finish index crashed).Tracks task progress := by
  cases busy : crew.task? index with
  | none =>
      rw [finish_of_not_busy busy]
      exact tracks
  | some other =>
      refine ⟨by rw [queue_finish, tracks.queued], fun place => ?_⟩
      rw [task?_finish busy, ← tracks.busy]
      split
      · next same => simpa [same, busy] using differ
      · rfl

end Crew
end FragmentCache
