import FragmentCache.Chain.Flights
import FragmentCache.Proofs.Table

/-!
# Callers and locks

Every caller that has not let go yet finds its lock listed under its key.  Callers
with the same key therefore share one lock, and only one of them runs.
-/

namespace FragmentCache
namespace Flights

variable {flights : Flights} {id other : CallerId} {caller : Caller}

/-! ## Stages of callers -/

/-- Changing the stage of a caller changes nothing about the others. -/
theorem callers_setStage (flights : Flights) (id other : CallerId) (stage : Stage) :
    (flights.setStage id stage).callers.find? other =
      if other = id then (flights.callers.find? id).map fun caller => { caller with stage }
      else flights.callers.find? other := by
  cases found : flights.callers.find? id with
  | none =>
      simp only [setStage, found]
      split
      · next same =>
          rw [same]
          exact found
      · rfl
  | some caller =>
      simp only [setStage, found]
      exact Table.find?_put _ _ _ _

@[simp] theorem locks_setStage (flights : Flights) (id : CallerId) (stage : Stage) :
    (flights.setStage id stage).locks = flights.locks := by
  unfold setStage
  split <;> rfl

@[simp] theorem nextCaller_setStage (flights : Flights) (id : CallerId) (stage : Stage) :
    (flights.setStage id stage).nextCaller = flights.nextCaller := by
  unfold setStage
  split <;> rfl

theorem callers_setStage_self
    (found : flights.callers.find? id = some caller)
    (stage : Stage) :
    (flights.setStage id stage).callers.find? id = some { caller with stage } := by
  rw [callers_setStage, if_pos rfl, found]
  rfl

theorem callers_setStage_of_ne
    (differ : other ≠ id)
    (stage : Stage) :
    (flights.setStage id stage).callers.find? other = flights.callers.find? other := by
  rw [callers_setStage, if_neg differ]

/-! ## Soundness -/

/-- How callers and locks belong together. -/
structure Sound (flights : Flights) : Prop where
  /-- Numbers of callers are not given out yet. -/
  fresh : ∀ id caller, flights.callers.find? id = some caller → id < flights.nextCaller
  /-- A caller's lock is listed until it is about to let go. -/
  listed : ∀ id caller, flights.callers.find? id = some caller →
    caller.stage ≠ .departing → flights.locks.find? caller.key = some caller.lock
  /-- A lock is held once. -/
  exclusive : ∀ id caller other otherCaller,
    flights.callers.find? id = some caller → flights.callers.find? other = some otherCaller →
      caller.lock = otherCaller.lock → caller.stage = .running → otherCaller.stage = .running →
        id = other

theorem sound_empty : ({} : Flights).Sound where
  fresh := nofun
  listed := nofun
  exclusive := nofun

/-- Of the callers with one key only one runs. -/
theorem Sound.runsAlone
    (sound : flights.Sound)
    {otherCaller : Caller}
    (found : flights.callers.find? id = some caller)
    (otherFound : flights.callers.find? other = some otherCaller)
    (sameKey : caller.key = otherCaller.key)
    (running : caller.stage = .running)
    (otherRunning : otherCaller.stage = .running) :
    id = other := by
  have listed : flights.locks.find? caller.key = some caller.lock := by
    apply sound.listed id caller found
    rw [running]
    exact nofun
  have otherListed : flights.locks.find? otherCaller.key = some otherCaller.lock := by
    apply sound.listed other otherCaller otherFound
    rw [otherRunning]
    exact nofun
  rw [sameKey, otherListed] at listed
  have sameLock : caller.lock = otherCaller.lock := (Option.some.inj listed).symm
  exact sound.exclusive id caller other otherCaller found otherFound sameLock running otherRunning

/-! ## Entering -/

section Enter

variable {key : String}

/-- The lock that a caller with the key gets. -/
def lockFor (flights : Flights) (key : String) : Lock :=
  (flights.locks.find? key).getD flights.nextLock

/-- Who finds a lock listed shares it. -/
theorem enter_of_listed
    {lock : Lock}
    (listed : flights.locks.find? key = some lock) :
    flights.enter key =
      ({ flights with
          callers := flights.callers.put flights.nextCaller { key, lock }
          nextCaller := flights.nextCaller + 1 }, flights.nextCaller, true) := by
  unfold enter
  rw [listed]

/-- Who finds no lock listed makes one and lists it. -/
theorem enter_of_unlisted (unlisted : flights.locks.find? key = none) :
    flights.enter key =
      ({ flights with
          locks := flights.locks.put key flights.nextLock
          nextLock := flights.nextLock + 1
          callers := flights.callers.put flights.nextCaller { key, lock := flights.nextLock }
          nextCaller := flights.nextCaller + 1 }, flights.nextCaller, false) := by
  unfold enter
  rw [unlisted]

theorem nextCaller_enter (flights : Flights) (key : String) :
    (flights.enter key).1.nextCaller = flights.nextCaller + 1 := rfl

/-- Whether there was a lock already is what the caller is told. -/
theorem contended_enter (flights : Flights) (key : String) :
    (flights.enter key).2.2 = flights.locks.contains key := by
  unfold Table.contains
  cases listed : flights.locks.find? key with
  | none =>
      rw [enter_of_unlisted listed]
      rfl
  | some lock =>
      rw [enter_of_listed listed]
      rfl

/-- Entering adds a caller that waits, and no other. -/
theorem callers_enter (flights : Flights) (key : String) (other : CallerId) :
    (flights.enter key).1.callers.find? other =
      if other = flights.nextCaller then some { key, lock := flights.lockFor key }
      else flights.callers.find? other := by
  unfold lockFor
  cases listed : flights.locks.find? key with
  | none =>
      rw [enter_of_unlisted listed]
      exact Table.find?_put _ _ _ _
  | some lock =>
      rw [enter_of_listed listed]
      exact Table.find?_put _ _ _ _

theorem locks_enter (flights : Flights) (key name : String) :
    (flights.enter key).1.locks.find? name =
      if name = key then some (flights.lockFor key) else flights.locks.find? name := by
  unfold lockFor
  cases listed : flights.locks.find? key with
  | none =>
      rw [enter_of_unlisted listed]
      exact Table.find?_put _ _ _ _
  | some lock =>
      rw [enter_of_listed listed]
      split
      · next same =>
          rw [same]
          exact listed
      · rfl

/-- A listed lock stays listed. -/
theorem locks_enter_of_found
    {name : String}
    {lock : Lock}
    (found : flights.locks.find? name = some lock) :
    (flights.enter key).1.locks.find? name = some lock := by
  rw [locks_enter]
  split
  · next same =>
      subst same
      rw [lockFor, found]
      rfl
  · exact found

/-- A caller that enters refers to the lock that is listed. -/
theorem Sound.enter (sound : flights.Sound) (key : String) : (flights.enter key).1.Sound := by
  constructor
  · intro id caller found
    rw [callers_enter] at found
    rw [nextCaller_enter]
    split at found
    · next same =>
        rw [same]
        exact Nat.lt_succ_self _
    · exact Nat.lt_succ_of_lt (sound.fresh id caller found)
  · intro id caller found staying
    rw [callers_enter] at found
    split at found
    · cases found
      rw [locks_enter, if_pos rfl]
    · exact locks_enter_of_found (sound.listed id caller found staying)
  · intro id caller other otherCaller found otherFound sameLock running otherRunning
    rw [callers_enter] at found otherFound
    -- The new caller waits, so the two that run were there before.
    split at found
    · cases found
      cases running
    · split at otherFound
      · cases otherFound
        cases otherRunning
      · exact sound.exclusive id caller other otherCaller found otherFound sameLock running
          otherRunning

end Enter

/-! ## From stage to stage -/

/-- A caller may go on to a stage that is not the run with the lock. -/
theorem Sound.setStage
    (sound : flights.Sound)
    (found : flights.callers.find? id = some caller)
    (staying : caller.stage ≠ .departing)
    {stage : Stage}
    (alone : stage = .running → ∀ other otherCaller,
      flights.callers.find? other = some otherCaller → otherCaller.lock = caller.lock →
        otherCaller.stage ≠ .running) :
    (flights.setStage id stage).Sound := by
  have origin : ∀ other otherCaller,
      (flights.setStage id stage).callers.find? other = some otherCaller →
        (other = id ∧ otherCaller = { caller with stage }) ∨
          (other ≠ id ∧ flights.callers.find? other = some otherCaller) := by
    intro other otherCaller otherFound
    rw [callers_setStage] at otherFound
    split at otherFound
    · next same =>
        rw [found] at otherFound
        exact Or.inl ⟨same, (Option.some.inj otherFound).symm⟩
    · next differ => exact Or.inr ⟨differ, otherFound⟩
  constructor
  · intro other otherCaller otherFound
    rw [nextCaller_setStage]
    obtain ⟨rfl, -⟩ | ⟨-, before⟩ := origin other otherCaller otherFound
    · exact sound.fresh other caller found
    · exact sound.fresh other otherCaller before
  · intro other otherCaller otherFound otherStaying
    rw [locks_setStage]
    obtain ⟨rfl, rfl⟩ | ⟨-, before⟩ := origin other otherCaller otherFound
    · exact sound.listed other caller found staying
    · exact sound.listed other otherCaller before otherStaying
  · intro first firstCaller second secondCaller firstFound secondFound sameLock firstRunning
      secondRunning
    obtain ⟨rfl, rfl⟩ | ⟨-, firstBefore⟩ := origin first firstCaller firstFound
    · obtain ⟨rfl, -⟩ | ⟨-, secondBefore⟩ := origin second secondCaller secondFound
      · rfl
      · exact absurd secondRunning
          (alone firstRunning second secondCaller secondBefore sameLock.symm)
    · obtain ⟨rfl, rfl⟩ | ⟨-, secondBefore⟩ := origin second secondCaller secondFound
      · exact absurd firstRunning (alone secondRunning first firstCaller firstBefore sameLock)
      · exact sound.exclusive first firstCaller second secondCaller firstBefore secondBefore
          sameLock firstRunning secondRunning

/-! ## Acquiring -/

/-- What it takes to acquire a lock, and what changes. -/
theorem acquire?_eq_some_iff {next : Flights} :
    flights.acquire? id = some next ↔
      ∃ caller, flights.callers.find? id = some caller ∧ caller.stage = .waiting ∧
        flights.isHeld caller.lock = false ∧ flights.setStage id .running = next := by
  unfold acquire?
  cases found : flights.callers.find? id with
  | none => exact ⟨nofun, nofun⟩
  | some caller =>
      dsimp only
      constructor
      · intro acquired
        split at acquired
        · next free =>
            have notHeld : flights.isHeld caller.lock = false := by simpa using free.2
            exact ⟨caller, rfl, free.1, notHeld, Option.some.inj acquired⟩
        · cases acquired
      · rintro ⟨_, same, waiting, notHeld, rfl⟩
        cases same
        rw [if_pos ⟨waiting, by rw [notHeld]; rfl⟩]

/-- Nobody runs with a lock that is not held. -/
theorem not_running_of_not_held
    {lock : Lock}
    (notHeld : flights.isHeld lock = false)
    (found : flights.callers.find? id = some caller)
    (sameLock : caller.lock = lock) :
    caller.stage ≠ .running := by
  intro running
  have listed : caller ∈ flights.callers.values :=
    List.mem_map.2 ⟨(id, caller), Table.find?_eq_some_iff.1 found, rfl⟩
  have held : flights.isHeld lock = true := by
    unfold isHeld
    rw [List.any_eq_true]
    exact ⟨caller, listed, by simp [sameLock, running]⟩
  rw [notHeld] at held
  cases held

/-- A lock that a caller acquires is still held once. -/
theorem Sound.acquire
    (sound : flights.Sound)
    {next : Flights}
    (acquired : flights.acquire? id = some next) :
    next.Sound := by
  obtain ⟨caller, found, waiting, notHeld, rfl⟩ := acquire?_eq_some_iff.1 acquired
  apply sound.setStage found
  · rw [waiting]
    exact nofun
  · intro _ other otherCaller otherFound sameLock
    exact not_running_of_not_held notHeld otherFound sameLock

/-! ## Leaving -/

/-- A caller that releases its lock still refers to the one that is listed. -/
theorem Sound.release
    (sound : flights.Sound)
    (found : flights.callers.find? id = some caller)
    (running : caller.stage = .running) :
    (flights.release id).Sound := by
  apply sound.setStage found
  · rw [running]
    exact nofun
  · exact nofun

/-- Two references at least come from callers when another one has the same lock. -/
theorem two_le_countP_iff (found : flights.callers.find? id = some caller) :
    2 ≤ (flights.callers.values.countP fun candidate => candidate.lock == caller.lock) ↔
      ∃ other otherCaller, flights.callers.find? other = some otherCaller ∧ other ≠ id ∧
        otherCaller.lock = caller.lock := by
  obtain ⟨front, back, split⟩ := Table.exists_split found
  have counted : (flights.callers.values.countP fun candidate => candidate.lock == caller.lock) =
      ((flights.callers.erase id).values.countP fun candidate =>
        candidate.lock == caller.lock) + 1 := by
    rw [Table.values, Table.values, split, Table.erase_of_split split, List.map_append,
      List.map_append, List.map_cons, List.countP_append, List.countP_append, List.countP_cons,
      if_pos (by simp)]
    omega
  have remains : ∀ other otherCaller, (other, otherCaller) ∈ (flights.callers.erase id).entries ↔
      flights.callers.find? other = some otherCaller ∧ other ≠ id := by
    intro other otherCaller
    rw [← Table.find?_eq_some_iff, Table.find?_erase]
    by_cases same : other = id <;> simp [same]
  rw [counted, Nat.succ_le_succ_iff, Nat.one_le_iff_ne_zero, ← Nat.pos_iff_ne_zero,
    List.countP_pos_iff]
  constructor
  · rintro ⟨otherCaller, among, sameLock⟩
    obtain ⟨⟨other, _⟩, listed, rfl⟩ := List.mem_map.1 among
    obtain ⟨otherFound, differ⟩ := (remains _ _).1 listed
    exact ⟨other, _, otherFound, differ, by simpa using sameLock⟩
  · rintro ⟨other, otherCaller, otherFound, differ, sameLock⟩
    have listed := (remains other otherCaller).2 ⟨otherFound, differ⟩
    exact ⟨otherCaller, List.mem_map_of_mem listed, by simpa using sameLock⟩

/-- What a sweep does, depending on whether the lock is still in use. -/
theorem sweep_eq
    (found : flights.callers.find? id = some caller) :
    flights.sweep id =
      if flights.locks.find? caller.key = some caller.lock ∧
          flights.references caller.key caller.lock ≤ 2 then
        { flights.setStage id .departing with locks := flights.locks.erase caller.key }
      else flights.setStage id .departing := by
  by_cases last : flights.locks.find? caller.key = some caller.lock ∧
      flights.references caller.key caller.lock ≤ 2
  · simp only [sweep, found, if_pos last, setStage]
  · simp only [sweep, found, if_neg last, setStage]

theorem callers_sweep (flights : Flights) (id other : CallerId) :
    (flights.sweep id).callers.find? other =
      (flights.setStage id .departing).callers.find? other := by
  cases found : flights.callers.find? id with
  | none => simp only [sweep, setStage, found]
  | some caller =>
      rw [sweep_eq found]
      split <;> rfl

/-- A sweep lists no lock. -/
theorem contains_of_contains_sweep
    {key : String}
    (listed : (flights.sweep id).locks.contains key = true) :
    flights.locks.contains key = true := by
  cases found : flights.callers.find? id with
  | none =>
      simp only [sweep, found] at listed
      exact listed
  | some caller =>
      rw [sweep_eq found] at listed
      split at listed
      · change ((flights.locks.erase caller.key).find? key).isSome = true at listed
        rw [Table.find?_erase] at listed
        split at listed
        · cases listed
        · exact listed
      · rw [locks_setStage] at listed
        exact listed

/-- A lock that nobody needs can be taken out of the list. -/
theorem Sound.eraseLock
    (sound : flights.Sound)
    {key : String}
    (unused : ∀ id caller, flights.callers.find? id = some caller →
      caller.stage ≠ .departing → caller.key ≠ key) :
    Sound { flights with locks := flights.locks.erase key } where
  fresh := sound.fresh
  listed id caller found staying := by
    change (flights.locks.erase key).find? caller.key = _
    rw [Table.find?_erase, if_neg (unused id caller found staying)]
    exact sound.listed id caller found staying
  exclusive := sound.exclusive

/-- Only the last caller that needs a lock takes it out of the list. -/
theorem Sound.sweep
    (sound : flights.Sound)
    (found : flights.callers.find? id = some caller)
    (released : caller.stage = .released) :
    (flights.sweep id).Sound := by
  have staying : caller.stage ≠ .departing := by
    rw [released]
    exact nofun
  have leaving : (flights.setStage id .departing).Sound := sound.setStage found staying nofun
  rw [sweep_eq found]
  split
  · next last =>
      obtain ⟨listed, few⟩ := last
      rw [references, if_pos listed] at few
      have erased : Sound { flights.setStage id .departing with
          locks := (flights.setStage id .departing).locks.erase caller.key } := by
        apply leaving.eraseLock
        intro other otherCaller otherFound otherStaying sameKey
        rw [callers_setStage] at otherFound
        split at otherFound
        · rw [found] at otherFound
          cases otherFound
          exact otherStaying rfl
        · next differ =>
            have otherListed := sound.listed other otherCaller otherFound otherStaying
            rw [sameKey, listed] at otherListed
            have two := (two_le_countP_iff found).2
              ⟨other, otherCaller, otherFound, differ, (Option.some.inj otherListed).symm⟩
            omega
      rw [locks_setStage] at erased
      exact erased
  · exact leaving

theorem callers_depart (flights : Flights) (id other : CallerId) :
    (flights.depart id).callers.find? other =
      if other = id then none else flights.callers.find? other :=
  Table.find?_erase _ _ _

/-- A caller that departs takes nothing away from the others. -/
theorem Sound.depart (sound : flights.Sound) (id : CallerId) : (flights.depart id).Sound := by
  have origin : ∀ other otherCaller,
      (flights.depart id).callers.find? other = some otherCaller →
        flights.callers.find? other = some otherCaller := by
    intro other otherCaller found
    rw [callers_depart] at found
    split at found
    · cases found
    · exact found
  constructor
  · intro other otherCaller found
    exact sound.fresh other otherCaller (origin other otherCaller found)
  · intro other otherCaller found
    exact sound.listed other otherCaller (origin other otherCaller found)
  · intro first firstCaller second secondCaller firstFound secondFound
    exact sound.exclusive first firstCaller second secondCaller
      (origin first firstCaller firstFound) (origin second secondCaller secondFound)

end Flights
end FragmentCache
