import FragmentCache.Table

/-!
# Flights

While a missing document is computed its key has a lock, so that callers with the
same key run one after the other.  A caller enters, acquires the lock, runs,
releases the lock, sweeps it out of the list when nobody else holds on to it, and
departs.  A lock is referred to by its place in the list and by every caller that
entered with it and has not departed.
-/

namespace FragmentCache
namespace Flights

/-- Number of a lock. -/
abbrev Lock := Nat

/-- Number of a caller. -/
abbrev CallerId := Nat

/-- Where a caller is. -/
inductive Stage where
  /-- Waiting for the lock. -/
  | waiting
  /-- Running with the lock held. -/
  | running
  /-- Done, with the lock released. -/
  | released
  /-- About to let go of the lock. -/
  | departing
  deriving DecidableEq

/-- Somebody who entered and has not departed. -/
structure Caller where
  key : String
  lock : Lock
  stage : Stage := .waiting
  deriving DecidableEq

end Flights

/-- Locks by key, and the callers that refer to them. -/
structure Flights where
  /-- The list of locks. -/
  locks : Table String Flights.Lock := .empty
  callers : Table Flights.CallerId Flights.Caller := .empty
  /-- Number of the next lock. -/
  nextLock : Flights.Lock := 0
  /-- Number of the next caller. -/
  nextCaller : Flights.CallerId := 0

namespace Flights

instance : Inhabited Flights := ⟨{}⟩

/-- Number of keys that have a lock. -/
def size (flights : Flights) : Nat := flights.locks.size

/-- Put a caller into a stage. -/
def setStage (flights : Flights) (id : CallerId) (stage : Stage) : Flights :=
  match flights.callers.find? id with
  | some caller => { flights with callers := flights.callers.put id { caller with stage } }
  | none => flights

/-- Enter with a key: take its lock, making one when there is none.  The answer says
who the caller is, and whether the lock was there already. -/
def enter (flights : Flights) (key : String) : Flights × CallerId × Bool :=
  let (lock, contended, listed) := match flights.locks.find? key with
    | some lock => (lock, true, flights)
    | none =>
      (flights.nextLock, false,
        { flights with
          locks := flights.locks.put key flights.nextLock
          nextLock := flights.nextLock + 1 })
  let id := flights.nextCaller
  ({ listed with callers := listed.callers.put id { key, lock }, nextCaller := id + 1 },
    id, contended)

/-- Whether a caller holds a lock. -/
def isHeld (flights : Flights) (lock : Lock) : Bool :=
  flights.callers.values.any fun caller => caller.lock == lock && caller.stage == .running

/-- Acquire the lock that a caller waits for, unless it is held. -/
def acquire? (flights : Flights) (id : CallerId) : Option Flights :=
  match flights.callers.find? id with
  | some caller =>
    if caller.stage = .waiting ∧ !flights.isHeld caller.lock then
      some (flights.setStage id .running)
    else none
  | none => none

/-- Release the lock that a caller holds. -/
def release (flights : Flights) (id : CallerId) : Flights := flights.setStage id .released

/-- Number of references to a lock: one if it is listed under the key, and one for
every caller. -/
def references (flights : Flights) (key : String) (lock : Lock) : Nat :=
  (if flights.locks.find? key = some lock then 1 else 0) +
    flights.callers.values.countP fun caller => caller.lock == lock

/-- Take the caller's lock out of the list when it is listed under its key and
nobody else refers to it. -/
def sweep (flights : Flights) (id : CallerId) : Flights :=
  match flights.callers.find? id with
  | some caller =>
    let swept :=
      if flights.locks.find? caller.key = some caller.lock ∧
          flights.references caller.key caller.lock ≤ 2 then
        { flights with locks := flights.locks.erase caller.key }
      else flights
    swept.setStage id .departing
  | none => flights

/-- Let go of the lock. -/
def depart (flights : Flights) (id : CallerId) : Flights :=
  { flights with callers := flights.callers.erase id }

/-- Release, sweep and depart without anybody in between. -/
def leave (flights : Flights) (id : CallerId) : Flights :=
  ((flights.release id).sweep id).depart id

end Flights
end FragmentCache
