import FragmentCache.Proofs.Block.Gathering

/-!
# Calls and their callers

A call that has entered the flights and not departed has a seat: its caller, and the
stage of that caller.  Calls for one key that were seated by moves never share a caller,
and one at most has the seat of the lock's holder.
-/

namespace FragmentCache
namespace Block
namespace Call

open Flights (CallerId)

/-- The caller of a call, and the stage it is in. -/
def Stage.seat? : Stage → Option (CallerId × Flights.Stage)
  | waiting caller _ => some (caller, .waiting)
  | rechecking caller => some (caller, .running)
  | starting (some caller) => some (caller, .running)
  | running (some caller) _ => some (caller, .running)
  | releasing caller _ => some (caller, .running)
  | sweeping caller _ => some (caller, .released)
  | departing caller _ => some (caller, .departing)
  | _ => none

/-- The caller of a call. -/
def Stage.caller? (stage : Stage) : Option CallerId := stage.seat?.map Prod.fst

/-- Whether a call holds the lock. -/
def Stage.Holds : Stage → Prop
  | rechecking _ | starting (some _) | running (some _) _ | releasing _ _ => True
  | _ => False

/-- How calls for one key belong to the callers of the flights. -/
structure Seated (key : String) (flights : Flights) (stages : List Stage) : Prop where
  sound : flights.Sound
  listed : ∀ stage ∈ stages, ∀ caller place, stage.seat? = some (caller, place) →
    ∃ lock, flights.callers.find? caller = some { key, lock, stage := place }
  apart : (stages.filterMap Stage.caller?).Nodup

variable {key : String} {flights next : Flights} {stage after : Stage} {stages others : List Stage}

/-- The seats do not depend on the order in which the calls are listed. -/
theorem Seated.perm
    (seated : Seated key flights stages)
    (reordered : stages.Perm others) :
    Seated key flights others where
  sound := seated.sound
  listed stage member := seated.listed stage (reordered.mem_iff.2 member)
  apart := (reordered.filterMap _).nodup_iff.1 seated.apart

theorem Stage.caller?_of_seat?
    {caller : CallerId}
    {place : Flights.Stage}
    (seat : stage.seat? = some (caller, place)) :
    stage.caller? = some caller := by
  rw [Stage.caller?, seat]
  rfl

/-- Who holds the lock has the seat of a caller that runs. -/
theorem Stage.Holds.exists_seat (holds : stage.Holds) :
    ∃ caller, stage.seat? = some (caller, .running) := by
  cases stage with
  | rechecking caller => exact ⟨caller, rfl⟩
  | starting caller =>
      cases caller with
      | none => exact holds.elim
      | some caller => exact ⟨caller, rfl⟩
  | running caller run =>
      cases caller with
      | none => exact holds.elim
      | some caller => exact ⟨caller, rfl⟩
  | releasing caller answer => exact ⟨caller, rfl⟩
  | _ => exact holds.elim

/-- The caller of a call is nobody else's. -/
theorem Seated.ne_of_mem
    (seated : Seated key flights (stage :: others))
    {caller other : CallerId}
    (mine : stage.caller? = some caller)
    {neighbour : Stage}
    (member : neighbour ∈ others)
    (theirs : neighbour.caller? = some other) :
    other ≠ caller := by
  have apart := seated.apart
  rw [List.filterMap_cons_some mine, List.nodup_cons] at apart
  rintro rfl
  exact apart.1 (List.mem_filterMap.2 ⟨neighbour, member, theirs⟩)

/-- Only one call holds the lock. -/
theorem Seated.holds_alone
    (seated : Seated key flights (stage :: others))
    (holds : stage.Holds)
    {neighbour : Stage}
    (member : neighbour ∈ others) :
    ¬neighbour.Holds := by
  intro otherHolds
  obtain ⟨caller, seat⟩ := holds.exists_seat
  obtain ⟨other, otherSeat⟩ := otherHolds.exists_seat
  obtain ⟨lock, found⟩ := seated.listed stage List.mem_cons_self caller .running seat
  obtain ⟨otherLock, otherFound⟩ :=
    seated.listed neighbour (List.mem_cons_of_mem _ member) other .running otherSeat
  apply seated.ne_of_mem (Stage.caller?_of_seat? seat) member (Stage.caller?_of_seat? otherSeat)
  exact seated.sound.runsAlone otherFound found rfl rfl rfl

/-- Who can acquire the lock finds nobody holding it. -/
theorem Seated.free_of_acquire
    (seated : Seated key flights (stage :: others))
    {caller : CallerId}
    (seat : stage.seat? = some (caller, .waiting))
    (acquired : flights.acquire? caller = some next) :
    ∀ neighbour ∈ stage :: others, ¬neighbour.Holds := by
  intro neighbour member holds
  obtain ⟨other, otherSeat⟩ := holds.exists_seat
  obtain ⟨lock, found⟩ := seated.listed stage List.mem_cons_self caller .waiting seat
  obtain ⟨otherLock, otherFound⟩ := seated.listed neighbour member other .running otherSeat
  obtain ⟨_, sameCaller, -, notHeld, -⟩ := Flights.acquire?_eq_some_iff.1 acquired
  rw [found] at sameCaller
  cases sameCaller
  have listed : flights.locks.find? key = some lock :=
    seated.sound.listed caller _ found nofun
  have otherListed : flights.locks.find? key = some otherLock :=
    seated.sound.listed other _ otherFound nofun
  rw [listed] at otherListed
  cases otherListed
  exact Flights.not_running_of_not_held notHeld otherFound rfl rfl

/-! ## Moves -/

/-- A call may take another seat while the others keep theirs. -/
theorem Seated.replace
    (seated : Seated key flights (stage :: others))
    (sound : next.Sound)
    (undisturbed : ∀ neighbour ∈ others, ∀ caller, neighbour.caller? = some caller →
      next.callers.find? caller = flights.callers.find? caller)
    (listed : ∀ caller place, after.seat? = some (caller, place) →
      ∃ lock, next.callers.find? caller = some { key, lock, stage := place })
    (apart : ∀ caller, after.caller? = some caller →
      ∀ neighbour ∈ others, neighbour.caller? ≠ some caller) :
    Seated key next (after :: others) where
  sound := sound
  listed := by
    intro neighbour member caller place seat
    obtain rfl | member := List.mem_cons.1 member
    · exact listed caller place seat
    · rw [undisturbed neighbour member caller (Stage.caller?_of_seat? seat)]
      exact seated.listed neighbour (List.mem_cons_of_mem _ member) caller place seat
  apart := by
    have othersApart : (others.filterMap Stage.caller?).Nodup :=
      seated.apart.sublist ((List.sublist_cons_self stage others).filterMap _)
    cases mine : after.caller? with
    | none =>
        rw [List.filterMap_cons_none mine]
        exact othersApart
    | some caller =>
        rw [List.filterMap_cons_some mine, List.nodup_cons]
        refine ⟨?_, othersApart⟩
        intro taken
        obtain ⟨neighbour, member, theirs⟩ := List.mem_filterMap.1 taken
        exact apart caller mine neighbour member theirs

/-- A call may go on with the same seat. -/
theorem Seated.keepSeat
    (seated : Seated key flights (stage :: others))
    (sameSeat : after.seat? = stage.seat?) :
    Seated key flights (after :: others) := by
  have sameCaller : after.caller? = stage.caller? := by
    rw [Stage.caller?, Stage.caller?, sameSeat]
  apply seated.replace seated.sound
  · exact fun _ _ _ _ => rfl
  · intro caller place seat
    rw [sameSeat] at seat
    exact seated.listed stage List.mem_cons_self caller place seat
  · intro caller mine neighbour member theirs
    rw [sameCaller] at mine
    exact seated.ne_of_mem mine member theirs rfl

/-- A call may take its caller to another stage. -/
theorem Seated.changeSeat
    (seated : Seated key flights (stage :: others))
    {caller : CallerId}
    {place newPlace : Flights.Stage}
    (seat : stage.seat? = some (caller, place))
    (newSeat : after.seat? = some (caller, newPlace))
    (sound : next.Sound)
    (changed : ∀ other,
      next.callers.find? other = (flights.setStage caller newPlace).callers.find? other) :
    Seated key next (after :: others) := by
  apply seated.replace sound
  · intro neighbour member other theirs
    rw [changed]
    apply Flights.callers_setStage_of_ne
    exact seated.ne_of_mem (Stage.caller?_of_seat? seat) member theirs
  · intro other otherPlace otherSeat
    rw [newSeat] at otherSeat
    cases otherSeat
    obtain ⟨lock, found⟩ := seated.listed stage List.mem_cons_self caller place seat
    exact ⟨lock, (changed caller).trans (Flights.callers_setStage_self found newPlace)⟩
  · intro other mine neighbour member theirs
    rw [Stage.caller?_of_seat? newSeat] at mine
    cases mine
    exact seated.ne_of_mem (Stage.caller?_of_seat? seat) member theirs rfl

/-- The number of a new caller is nobody's. -/
theorem Seated.lt_nextCaller
    (seated : Seated key flights stages)
    {caller : CallerId}
    (member : stage ∈ stages)
    (theirs : stage.caller? = some caller) :
    caller < flights.nextCaller := by
  unfold Stage.caller? at theirs
  obtain ⟨⟨_, place⟩, seat, rfl⟩ := Option.map_eq_some_iff.1 theirs
  obtain ⟨lock, found⟩ := seated.listed stage member _ place seat
  exact seated.sound.fresh _ _ found

/-- Who enters gets a seat of its own. -/
theorem Seated.enter
    (seated : Seated key flights (.arriving :: others))
    (contended : Bool) :
    Seated key (flights.enter key).1 (.waiting flights.nextCaller contended :: others) := by
  apply seated.replace (seated.sound.enter key)
  · intro neighbour member other theirs
    have before := seated.lt_nextCaller (List.mem_cons_of_mem _ member) theirs
    rw [Flights.callers_enter, if_neg (Nat.ne_of_lt before)]
  · intro caller place seat
    cases seat
    exact ⟨flights.lockFor key, (Flights.callers_enter _ _ _).trans (if_pos rfl)⟩
  · intro caller mine neighbour member theirs
    cases mine
    exact Nat.lt_irrefl _ (seated.lt_nextCaller (List.mem_cons_of_mem _ member) theirs)

/-- Who departs gives its seat back. -/
theorem Seated.depart
    {caller : CallerId}
    {answer : Answer}
    (seated : Seated key flights (.departing caller answer :: others)) :
    Seated key (flights.depart caller) (.finished answer :: others) := by
  apply seated.replace (seated.sound.depart caller)
  · intro neighbour member other theirs
    rw [Flights.callers_depart, if_neg]
    exact seated.ne_of_mem rfl member theirs
  · exact nofun
  · exact nofun

/-- Every move keeps the calls seated. -/
theorem Seated.move
    {desk after : Desk}
    {stage next : Stage}
    (seated : Seated key desk.flights (stage :: others))
    (move : Move key desk stage after next) :
    Seated key after.flights (next :: others) := by
  cases move with
  | hit => exact seated.keepSeat rfl
  | miss => exact seated.keepSeat rfl
  | enter => exact seated.enter _
  | acquireFirst acquired =>
      have sound := seated.sound.acquire acquired
      obtain ⟨_, -, -, -, rfl⟩ := Flights.acquire?_eq_some_iff.1 acquired
      exact seated.changeSeat rfl rfl sound fun _ => rfl
  | acquireNext acquired =>
      have sound := seated.sound.acquire acquired
      obtain ⟨_, -, -, -, rfl⟩ := Flights.acquire?_eq_some_iff.1 acquired
      exact seated.changeSeat rfl rfl sound fun _ => rfl
  | recheckHit => exact seated.keepSeat rfl
  | recheckMiss => exact seated.keepSeat rfl
  | start => exact seated.keepSeat rfl
  | conclude => exact seated.keepSeat rfl
  | release =>
      obtain ⟨lock, found⟩ := seated.listed _ List.mem_cons_self _ _ rfl
      exact seated.changeSeat rfl rfl (seated.sound.release found rfl) fun _ => rfl
  | sweep =>
      obtain ⟨lock, found⟩ := seated.listed _ List.mem_cons_self _ _ rfl
      exact seated.changeSeat rfl rfl (seated.sound.sweep found rfl)
        (Flights.callers_sweep desk.flights _)
  | depart => exact seated.depart

end Call
end Block
end FragmentCache
