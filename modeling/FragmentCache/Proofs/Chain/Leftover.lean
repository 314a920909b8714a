import FragmentCache.Proofs.Chain.Interleaving

/-!
# Locks left behind

A sweep keeps a lock listed while another caller refers to it.  If all those callers have
swept before and only have to let go of the lock, nobody is left to take it out of the
list.  So when all callers have departed, the locks still listed are those whose last
sweep came upon a caller about to depart; there are none if every caller departs before
the next one with its key sweeps.
-/

namespace FragmentCache
namespace Flights

variable {flights : Flights} {id other : CallerId} {caller otherCaller : Caller}
  {key name : String} {lock : Lock} {stage : Stage}

/-! ## What a turn does -/

/-- The caller that sweeps in a turn. -/
def sweeper? (flights : Flights) : Turn → Option Caller
  | .enter _ => none
  | .advance id => (flights.callers.find? id).filter fun caller => caller.stage == .released

/-- Whether somebody is about to let go of a lock. -/
def isDeparting (flights : Flights) (lock : Lock) : Bool :=
  flights.callers.values.any fun caller => caller.lock == lock && caller.stage == .departing

theorem isDeparting_iff :
    flights.isDeparting lock = true ↔ ∃ id caller,
      flights.callers.find? id = some caller ∧ caller.lock = lock ∧ caller.stage = .departing := by
  simp only [isDeparting, Table.values, List.any_map, List.any_eq_true, Function.comp,
    Bool.and_eq_true, beq_iff_eq, Prod.exists, ← Table.find?_eq_some_iff]

/-- A caller goes on to a stage in which it still needs its lock, or it sweeps, or it
departs. -/
theorem advance_cases (flights : Flights) (id : CallerId) :
    (flights.sweeper? (.advance id) = none ∧
      (flights.advance id = flights ∨
        (∃ caller stage, flights.callers.find? id = some caller ∧ stage ≠ .departing ∧
          flights.advance id = flights.setStage id stage) ∨
        ∃ caller, flights.callers.find? id = some caller ∧ caller.stage = .departing ∧
          flights.advance id = flights.depart id)) ∨
    ∃ caller, flights.callers.find? id = some caller ∧ caller.stage = .released ∧
      flights.sweeper? (.advance id) = some caller ∧ flights.advance id = flights.sweep id := by
  have sweeps : flights.sweeper? (.advance id) =
      (flights.callers.find? id).filter fun caller => caller.stage == .released := rfl
  rw [sweeps]
  unfold advance
  cases found : flights.callers.find? id with
  | none => exact .inl ⟨rfl, .inl rfl⟩
  | some caller =>
      rw [Option.map_some, Option.filter_some]
      cases stage : caller.stage with
      | waiting =>
          refine .inl ⟨rfl, ?_⟩
          cases acquired : flights.acquire? id with
          | none => exact .inl rfl
          | some next =>
              obtain ⟨-, -, -, -, rfl⟩ := acquire?_eq_some_iff.1 acquired
              exact .inr (.inl ⟨caller, .running, rfl, nofun, rfl⟩)
      | running => exact .inl ⟨rfl, .inr (.inl ⟨caller, .released, rfl, nofun, rfl⟩)⟩
      | released => exact .inr ⟨caller, rfl, stage, rfl, rfl⟩
      | departing => exact .inl ⟨rfl, .inr (.inr ⟨caller, rfl, stage, rfl⟩)⟩

/-! ## Keys in need of a lock -/

/-- Some caller has yet to sweep a lock for the key. -/
def Needs (flights : Flights) (key : String) : Prop :=
  ∃ id caller, flights.callers.find? id = some caller ∧ caller.key = key ∧
    caller.stage ≠ .departing

/-- Who enters has yet to sweep. -/
theorem needs_enter (flights : Flights) (key : String) : (flights.enter key).1.Needs key :=
  ⟨flights.nextCaller, { key, lock := flights.lockFor key },
    (callers_enter flights key _).trans (if_pos rfl), rfl, nofun⟩

/-- Who enters takes nobody's sweep away. -/
theorem Needs.enter
    (needs : flights.Needs key)
    (sound : flights.Sound)
    (name : String) :
    (flights.enter name).1.Needs key := by
  obtain ⟨id, caller, found, sameKey, staying⟩ := needs
  refine ⟨id, caller, ?_, sameKey, staying⟩
  rw [callers_enter, if_neg (Nat.ne_of_lt (sound.fresh id caller found))]
  exact found

/-- A caller that goes on without departing has still to sweep. -/
theorem Needs.setStage
    (needs : flights.Needs key)
    (staying : stage ≠ .departing) :
    (flights.setStage id stage).Needs key := by
  obtain ⟨other, caller, found, sameKey, callerStays⟩ := needs
  by_cases same : other = id
  · subst same
    exact ⟨other, _, callers_setStage_self found stage, sameKey, staying⟩
  · refine ⟨other, caller, ?_, sameKey, callerStays⟩
    rw [callers_setStage_of_ne same]
    exact found

/-- What another caller needs is needed after a sweep. -/
theorem Needs.of_sweep
    (found : flights.callers.find? other = some otherCaller)
    (staying : otherCaller.stage ≠ .departing)
    (differ : other ≠ id) :
    (flights.sweep id).Needs otherCaller.key := by
  refine ⟨other, otherCaller, ?_, rfl, staying⟩
  rw [callers_sweep, callers_setStage_of_ne differ]
  exact found

/-- A caller that departs has swept before. -/
theorem Needs.depart
    (needs : flights.Needs key)
    (found : flights.callers.find? id = some caller)
    (departing : caller.stage = .departing) :
    (flights.depart id).Needs key := by
  obtain ⟨other, otherCaller, otherFound, sameKey, staying⟩ := needs
  have differ : other ≠ id := by
    rintro rfl
    rw [found] at otherFound
    cases otherFound
    exact staying departing
  refine ⟨other, otherCaller, ?_, sameKey, staying⟩
  rw [callers_depart, if_neg differ]
  exact otherFound

/-! ## Numbers of locks -/

/-- Listed locks have numbers given out before, and each key has a lock of its own. -/
structure Numbered (flights : Flights) : Prop where
  fresh : ∀ key lock, flights.locks.find? key = some lock → lock < flights.nextLock
  single : ∀ key name lock, flights.locks.find? key = some lock →
    flights.locks.find? name = some lock → key = name

theorem numbered_empty : ({} : Flights).Numbered where
  fresh := nofun
  single := nofun

/-- Taking locks out of the list leaves the others as they are. -/
theorem Numbered.of_locks
    (numbered : flights.Numbered)
    {next : Flights}
    (fewer : ∀ key lock, next.locks.find? key = some lock → flights.locks.find? key = some lock)
    (sameNumber : next.nextLock = flights.nextLock) :
    next.Numbered where
  fresh key lock listed := by
    rw [sameNumber]
    exact numbered.fresh key lock (fewer key lock listed)
  single key name lock listed otherListed :=
    numbered.single key name lock (fewer key lock listed) (fewer name lock otherListed)

/-- A lock that is made has a number of its own. -/
theorem Numbered.enter (numbered : flights.Numbered) (key : String) :
    (flights.enter key).1.Numbered := by
  cases listed : flights.locks.find? key with
  | some lock =>
      rw [enter_of_listed listed]
      exact numbered.of_locks (fun _ _ found => found) rfl
  | none =>
      rw [enter_of_unlisted listed]
      constructor
      · intro name lock found
        change (flights.locks.put key flights.nextLock).find? name = some lock at found
        rw [Table.find?_put] at found
        change lock < flights.nextLock + 1
        split at found
        · cases found
          exact Nat.lt_succ_self _
        · exact Nat.lt_succ_of_lt (numbered.fresh name lock found)
      · intro first second lock firstFound secondFound
        change (flights.locks.put key flights.nextLock).find? first = some lock at firstFound
        change (flights.locks.put key flights.nextLock).find? second = some lock at secondFound
        rw [Table.find?_put] at firstFound secondFound
        split at firstFound <;> split at secondFound
        · next sameFirst sameSecond => rw [sameFirst, sameSecond]
        · cases firstFound
          exact absurd (numbered.fresh second _ secondFound) (Nat.lt_irrefl _)
        · cases secondFound
          exact absurd (numbered.fresh first _ firstFound) (Nat.lt_irrefl _)
        · exact numbered.single first second lock firstFound secondFound

theorem nextLock_setStage (flights : Flights) (id : CallerId) (stage : Stage) :
    (flights.setStage id stage).nextLock = flights.nextLock := by
  unfold Flights.setStage
  split <;> rfl

/-- What a sweep leaves listed was listed. -/
theorem find?_of_sweep
    (found : flights.callers.find? id = some caller)
    (listed : (flights.sweep id).locks.find? key = some lock) :
    flights.locks.find? key = some lock := by
  rw [sweep_eq found] at listed
  split at listed
  · change (flights.locks.erase caller.key).find? key = some lock at listed
    rw [Table.find?_erase] at listed
    split at listed
    · cases listed
    · exact listed
  · rw [locks_setStage] at listed
    exact listed

/-- A sweep lists no lock that was not listed. -/
theorem Numbered.sweep
    (numbered : flights.Numbered)
    (found : flights.callers.find? id = some caller) :
    (flights.sweep id).Numbered := by
  refine numbered.of_locks (fun _ _ listed => find?_of_sweep found listed) ?_
  rw [sweep_eq found]
  split <;> exact nextLock_setStage _ _ _

/-! ## The last sweep under a key -/

/-- Flights, and what was come upon by the last sweep under every key. -/
structure Watched where
  flights : Flights := {}
  /-- Whether somebody was about to let go of the lock. -/
  metDeparting : String → Bool := fun _ => false

/-- Take a turn. -/
def Watched.take (watched : Watched) (turn : Turn) : Watched where
  flights := watched.flights.take turn
  metDeparting := match watched.flights.sweeper? turn with
    | some caller => Function.update watched.metDeparting caller.key
        (watched.flights.isDeparting caller.lock)
    | none => watched.metDeparting

/-- Take turns one after the other, and watch the sweeps. -/
def watch (turns : List Turn) : Watched := turns.foldl Watched.take {}

variable {watched : Watched} {turn : Turn}

theorem Watched.take_of_no_sweep (quiet : watched.flights.sweeper? turn = none) :
    watched.take turn = { watched with flights := watched.flights.take turn } := by
  unfold Watched.take
  rw [quiet]

/-- Only a turn that sweeps changes what was come upon. -/
theorem Watched.take_of_sweep (sweeps : watched.flights.sweeper? turn = some caller) :
    watched.take turn = {
      flights := watched.flights.take turn
      metDeparting := Function.update watched.metDeparting caller.key
        (watched.flights.isDeparting caller.lock) } := by
  unfold Watched.take
  rw [sweeps]

/-- Watching changes no turn. -/
theorem flights_watch (turns : List Turn) : (watch turns).flights = run {} turns := by
  unfold watch
  change _ = run ({} : Watched).flights turns
  generalize ({} : Watched) = watched
  induction turns generalizing watched with
  | nil => rfl
  | cons turn rest inductionHypothesis => exact inductionHypothesis (watched.take turn)

/-- A key has a listed lock because a caller needs it or because the last sweep came upon
a caller about to depart. -/
structure Watched.Sound (watched : Watched) : Prop where
  sound : watched.flights.Sound
  numbered : watched.flights.Numbered
  reason : ∀ key, watched.flights.locks.contains key = true →
    watched.metDeparting key = true ∨ watched.flights.Needs key
  listed : ∀ key, watched.metDeparting key = true →
    watched.flights.locks.contains key = true

/-- Without callers and locks there is nothing to explain. -/
theorem Watched.sound_empty : ({} : Watched).Sound where
  sound := Flights.sound_empty
  numbered := numbered_empty
  reason := nofun
  listed := nofun

/-- A lock that is listed by an entry is needed by that caller. -/
theorem Watched.Sound.enter (sound : watched.Sound) (invocation : Invocation) :
    (watched.take (.enter invocation)).Sound where
  sound := sound.sound.take (.enter invocation)
  numbered := sound.numbered.enter invocation.keyText
  reason key listed := by
    change (watched.flights.enter invocation.keyText).1.locks.contains key = true at listed
    change watched.metDeparting key = true ∨ (watched.flights.enter invocation.keyText).1.Needs key
    rw [Table.contains, locks_enter] at listed
    split at listed
    · next same =>
        rw [same]
        exact .inr (needs_enter _ _)
    · obtain met | needs := sound.reason key listed
      · exact .inl met
      · exact .inr (needs.enter sound.sound _)
  listed key met := by
    obtain ⟨lock, found⟩ := Option.isSome_iff_exists.1 (sound.listed key met)
    exact Option.isSome_iff_exists.2 ⟨lock, locks_enter_of_found found⟩

/-- A sweep keeps the lock listed exactly if another caller has it. -/
theorem contains_sweep_iff
    (found : flights.callers.find? id = some caller)
    (listed : flights.locks.find? caller.key = some caller.lock) :
    (flights.sweep id).locks.contains caller.key = true ↔
      ∃ other otherCaller, flights.callers.find? other = some otherCaller ∧ other ≠ id ∧
        otherCaller.lock = caller.lock := by
  rw [← two_le_countP_iff found, sweep_eq found, references, if_pos listed]
  split
  · next last =>
      change ((flights.locks.erase caller.key).find? caller.key).isSome = true ↔ _
      rw [Table.find?_erase_self]
      constructor
      · intro absurd
        cases absurd
      · intro many
        omega
  · next kept =>
      rw [locks_setStage, Table.contains, listed]
      simp only [listed, true_and] at kept
      constructor
      · intro _
        omega
      · intro _
        rfl

/-- Under other keys than its own a sweep changes nothing. -/
theorem contains_sweep_of_ne
    (found : flights.callers.find? id = some caller)
    (differ : key ≠ caller.key) :
    (flights.sweep id).locks.contains key = flights.locks.contains key := by
  rw [sweep_eq found]
  split
  · change ((flights.locks.erase caller.key).find? key).isSome = _
    rw [Table.find?_erase, if_neg differ]
    rfl
  · rw [locks_setStage]

/-- A sweep that leaves its lock listed leaves it to a caller that needs it, or came upon
one about to depart. -/
theorem Watched.Sound.sweep
    (sound : watched.Sound)
    (found : watched.flights.callers.find? id = some caller)
    (released : caller.stage = .released) :
    Watched.Sound {
      flights := watched.flights.sweep id
      metDeparting := Function.update watched.metDeparting caller.key
        (watched.flights.isDeparting caller.lock) } := by
  have staying : caller.stage ≠ .departing := by
    rw [released]
    exact nofun
  have lockListed := sound.sound.listed id caller found staying
  refine ⟨sound.sound.sweep found released, sound.numbered.sweep found, ?_, ?_⟩
  · intro key listed
    dsimp only at listed ⊢
    by_cases same : key = caller.key
    · subst same
      rw [Function.update_self]
      obtain ⟨other, otherCaller, otherFound, differ, sameLock⟩ :=
        (contains_sweep_iff found lockListed).1 listed
      by_cases otherStage : otherCaller.stage = .departing
      · exact .inl (isDeparting_iff.2 ⟨other, otherCaller, otherFound, sameLock, otherStage⟩)
      · have otherListed := sound.sound.listed other otherCaller otherFound otherStage
        rw [sameLock] at otherListed
        rw [sound.numbered.single _ _ _ lockListed otherListed]
        exact .inr (.of_sweep otherFound otherStage differ)
    · rw [Function.update_of_ne same]
      rw [contains_sweep_of_ne found same] at listed
      obtain met | ⟨other, otherCaller, otherFound, rfl, otherStays⟩ := sound.reason key listed
      · exact .inl met
      · refine .inr (.of_sweep otherFound otherStays ?_)
        rintro rfl
        rw [found] at otherFound
        cases otherFound
        exact same rfl
  · intro key met
    dsimp only at met ⊢
    by_cases same : key = caller.key
    · subst same
      rw [Function.update_self] at met
      obtain ⟨other, otherCaller, otherFound, sameLock, departing⟩ := isDeparting_iff.1 met
      refine (contains_sweep_iff found lockListed).2
        ⟨other, otherCaller, otherFound, ?_, sameLock⟩
      rintro rfl
      rw [found] at otherFound
      cases otherFound
      exact staying departing
    · rw [Function.update_of_ne same] at met
      rw [contains_sweep_of_ne found same]
      exact sound.listed key met

/-- What leaves the locks and the needs of callers alone leaves the reasons alone. -/
theorem Watched.Sound.keepLocks
    (sound : watched.Sound)
    {next : Flights}
    (nextSound : next.Sound)
    (sameLocks : next.locks = watched.flights.locks)
    (sameNumber : next.nextLock = watched.flights.nextLock)
    (needs : ∀ key, watched.flights.Needs key → next.Needs key) :
    Watched.Sound { watched with flights := next } where
  sound := nextSound
  numbered := sound.numbered.of_locks (by simp [sameLocks]) sameNumber
  reason key listed := by
    change next.locks.contains key = true at listed
    rw [sameLocks] at listed
    exact (sound.reason key listed).imp_right (needs key)
  listed key met := by
    change next.locks.contains key = true
    rw [sameLocks]
    exact sound.listed key met

/-- After any step of a caller, listed locks have a reason to be listed. -/
theorem Watched.Sound.advance (sound : watched.Sound) (id : CallerId) :
    (watched.take (.advance id)).Sound := by
  have nextSound := sound.sound.advance id
  obtain ⟨quiet, same | ⟨caller, stage, -, staying, same⟩ | ⟨caller, found, departing, same⟩⟩ |
    ⟨caller, found, released, sweeps, same⟩ := advance_cases watched.flights id
  · rw [take_of_no_sweep quiet, Flights.take, same]
    exact sound
  · rw [same] at nextSound
    rw [take_of_no_sweep quiet, Flights.take, same]
    exact sound.keepLocks nextSound (locks_setStage _ _ _) (nextLock_setStage _ _ _)
      fun key needs => needs.setStage staying
  · rw [same] at nextSound
    rw [take_of_no_sweep quiet, Flights.take, same]
    exact sound.keepLocks nextSound rfl rfl fun key needs => needs.depart found departing
  · rw [take_of_sweep sweeps, Flights.take, same]
    exact sound.sweep found released

/-- After a turn, listed locks have a reason to be listed. -/
theorem Watched.Sound.take (sound : watched.Sound) (turn : Turn) : (watched.take turn).Sound := by
  cases turn with
  | enter invocation => exact sound.enter invocation
  | advance id => exact sound.advance id

/-- After any turns, listed locks have a reason to be listed. -/
theorem Watched.Sound.run (sound : watched.Sound) (turns : List Turn) :
    (turns.foldl Watched.take watched).Sound := by
  induction turns generalizing watched with
  | nil => exact sound
  | cons turn rest inductionHypothesis => exact inductionHypothesis (sound.take turn)

theorem sound_watch (turns : List Turn) : (watch turns).Sound := Watched.sound_empty.run turns

/-! ## When all have departed -/

theorem size_eq_zero_iff : flights.size = 0 ↔ ∀ key, flights.locks.contains key = false := by
  change flights.locks.entries.length = 0 ↔ _
  simp only [Table.contains_eq_false_iff, Table.keys]
  rw [← List.eq_nil_iff_forall_not_mem, List.map_eq_nil_iff, List.length_eq_zero_iff]

/-- Once all callers have departed, a key has a listed lock exactly if its last sweep came
upon a caller about to let go of the lock, and no lock is listed exactly if there is no
such key. -/
theorem listed_iff_last_sweep_met_departing
    (turns : List Turn)
    (departed : ∀ id, (run {} turns).callers.find? id = none) :
    (∀ key, (run {} turns).locks.contains key = (watch turns).metDeparting key) ∧
      ((run {} turns).size = 0 ↔ ∀ key, (watch turns).metDeparting key = false) := by
  have sound := sound_watch turns
  have reasons : ∀ key,
      (run {} turns).locks.contains key = (watch turns).metDeparting key := by
    intro key
    rw [← flights_watch, Bool.eq_iff_iff]
    constructor
    · intro listed
      obtain met | ⟨id, caller, found, -⟩ := sound.reason key listed
      · exact met
      · rw [flights_watch, departed id] at found
        cases found
    · exact sound.listed key
  refine ⟨reasons, ?_⟩
  rw [size_eq_zero_iff]
  simp only [reasons]

/-- Two callers with one key, of which the first one sweeps before the second one and
departs after it. -/
def overlappingTurns : List Turn :=
  [.enter { method := "page" }, .advance 0, .enter { method := "page" }, .advance 0,
    .advance 0, .advance 1, .advance 1, .advance 1, .advance 0, .advance 1]

theorem overlapping_departed (id : CallerId) :
    (run {} overlappingTurns).callers.find? id = none := by
  have nobody : (run {} overlappingTurns).callers.entries = [] := by decide +kernel
  rw [Table.find?_eq_none_iff, Table.keys, nobody]
  exact List.not_mem_nil

/-- Both callers have departed, and the lock is still listed. -/
theorem lock_listed_after_departures :
    (∀ id, (run {} overlappingTurns).callers.find? id = none) ∧
      (run {} overlappingTurns).size = 1 :=
  ⟨overlapping_departed, by decide +kernel⟩

/-- After two overlapping callers have departed, their lock is listed for the reason that
the second one's sweep came upon the first. -/
theorem listed_iff_last_sweep_met_departing_overlapping :
    (∀ id, (run {} overlappingTurns).callers.find? id = none) ∧
      (∀ key, (run {} overlappingTurns).locks.contains key =
        (watch overlappingTurns).metDeparting key) ∧
      (watch overlappingTurns).metDeparting "|page" = true := by
  obtain ⟨listed, -⟩ :=
    listed_iff_last_sweep_met_departing overlappingTurns overlapping_departed
  exact ⟨overlapping_departed, listed, by decide +kernel⟩

end Flights
end FragmentCache
