import FragmentCache.Page.Slots
import FragmentCache.Table
import FragmentCache.Time

/-!
# Waiting for slots

Who waits for the slots is parked until they are over, and looks again whenever it
is woken.  Filling the last slot wakes all that are parked at once; stopping the
slots wakes them in a step of its own, afterwards.
-/

namespace FragmentCache
namespace Waiting

/-- Number of somebody who waits. -/
abbrev WaiterId := Nat

/-- Where a wait is. -/
inductive Stage where
  /-- Asleep. -/
  | parked
  /-- About to look again. -/
  | woken
  | finished (outcome : Slots.Outcome)
  deriving DecidableEq

end Waiting

/-- Slots with those who wait for them. -/
structure Waiting where
  slots : Slots := {}
  waiters : Table Waiting.WaiterId Waiting.Stage := .empty
  /-- Stops that have not woken anybody yet. -/
  pendingNotices : Nat := 0

namespace Waiting

/-- The stage after everybody was woken. -/
def Stage.wake : Stage → Stage
  | parked => woken
  | stage => stage

/-- Wake everybody who is parked. -/
def notifyAll (waiting : Waiting) : Waiting :=
  { waiting with
    waiters := waiting.waiters.keys.foldl
      (fun waiters id => match waiters.find? id with
        | some stage => waiters.put id stage.wake
        | none => waiters)
      waiting.waiters }

/-- End a wait. -/
def close (waiting : Waiting) (id : WaiterId) : Waiting :=
  let (slots, outcome) := waiting.slots.close
  { waiting with slots, waiters := waiting.waiters.put id (.finished outcome) }

/-- Look at the slots: end the wait when they are over, else park. -/
def look (waiting : Waiting) (id : WaiterId) : Waiting :=
  if waiting.slots.isOver then waiting.close id
  else { waiting with waiters := waiting.waiters.put id .parked }

/-- Fill a slot. -/
def deliver (waiting : Waiting) (slot : Nat) (document : Document) :
    Waiting × Except Slots.Fault Bool :=
  let (slots, answer) := waiting.slots.deliver slot document
  let delivered := { waiting with slots }
  match answer with
  | .ok true => (if slots.isComplete then delivered.notifyAll else delivered, answer)
  | _ => (delivered, answer)

/-- Stop the slots; who is parked is woken later. -/
def stop (waiting : Waiting) : Waiting :=
  { waiting with
    slots := waiting.slots.stop, pendingNotices := waiting.pendingNotices + 1 }

/-- Wake everybody for a stop. -/
def notify (waiting : Waiting) : Waiting :=
  { waiting with pendingNotices := waiting.pendingNotices - 1 }.notifyAll

/-- Somebody takes the next step; who is parked wakes for no reason. -/
def resume (waiting : Waiting) (id : WaiterId) : Waiting :=
  match waiting.waiters.find? id with
  | some .parked | some .woken => waiting.look id
  | _ => waiting

/-- The time of somebody is up. -/
def expire (waiting : Waiting) (id : WaiterId) : Waiting :=
  match waiting.waiters.find? id with
  | some .parked | some .woken => waiting.close id
  | _ => waiting

/-- Outcome of a wait that has ended. -/
def outcome? (waiting : Waiting) (id : WaiterId) : Option Slots.Outcome :=
  match waiting.waiters.find? id with
  | some (.finished outcome) => some outcome
  | _ => none

/-! ## One wait and one helper -/

/-- What a helper does while somebody waits: it fills slots and may stop them. -/
structure Help where
  deliveries : List (Nat × Document) := []
  stops : Bool := false

/-- How long a helper sleeps before it starts. -/
def helperDelay : Duration := .milliseconds 5

/-- The helper does all it has to do. -/
def help (waiting : Waiting) (helper : Help) : Waiting × List (Except Slots.Fault Bool) :=
  let (waiting, answers) := helper.deliveries.foldl
    (fun (waiting, answers) (slot, document) =>
      let (waiting, answer) := waiting.deliver slot document
      (waiting, answers ++ [answer]))
    (waiting, [])
  (if helper.stops then waiting.stop.notify else waiting, answers)

/-- Number of the one who waits. -/
def waiter : WaiterId := 0

/-- Wait for the slots with a helper or without.  A time that is up before the
helper starts ends the wait first; otherwise the helper is done before whoever it
wakes looks again. -/
def waitWithHelp (slots : Slots) (timeout : Duration) (helper : Option Help) :
    Slots × Slots.Outcome × Option (List (Except Slots.Fault Bool)) :=
  let started := ({ slots } : Waiting).look waiter
  let early := if timeout < helperDelay then started.expire waiter else started
  let (helped, answers) := match helper with
    | some helper => let (waiting, answers) := early.help helper; (waiting, some answers)
    | none => (early, none)
  let awake :=
    if helped.waiters.find? waiter = some .woken then helped.resume waiter else helped
  let ended := awake.expire waiter
  (ended.slots, (ended.outcome? waiter).getD .completed, answers)

end Waiting
end FragmentCache
