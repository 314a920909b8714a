import FragmentCache.Key
import FragmentCache.Proofs.Chain.Flights

/-!
# Callers in any order

Any number of callers enter the flights at any time, each with an invocation of its
own, and take their further steps in any order.  Whatever the order, the callers with
one key run one after the other, all with the lock that is listed under the key.
-/

namespace FragmentCache
namespace Flights

/-- Whose turn it is. -/
inductive Turn where
  /-- Somebody enters for an invocation. -/
  | enter (invocation : Invocation)
  /-- A caller takes its next step. -/
  | advance (id : CallerId)
  deriving DecidableEq

/-- The next step of a caller.  A run that crashes releases the lock like one that
comes to its end; who waits for a lock that is held stays where it is. -/
def advance (flights : Flights) (id : CallerId) : Flights :=
  match (flights.callers.find? id).map Caller.stage with
  | none => flights
  | some .waiting => (flights.acquire? id).getD flights
  | some .running => flights.release id
  | some .released => flights.sweep id
  | some .departing => flights.depart id

/-- Take a turn. -/
def take (flights : Flights) : Turn → Flights
  | .enter invocation => (flights.enter invocation.keyText).1
  | .advance id => flights.advance id

/-- Take turns one after the other. -/
def run (flights : Flights) (turns : List Turn) : Flights := turns.foldl take flights

variable {flights : Flights}

/-- The next step of any caller keeps callers and locks together. -/
theorem Sound.advance (sound : flights.Sound) (id : CallerId) : (flights.advance id).Sound := by
  unfold Flights.advance
  cases found : flights.callers.find? id with
  | none => exact sound
  | some caller =>
      rw [Option.map_some]
      cases stage : caller.stage with
      | waiting =>
          dsimp only
          cases acquired : flights.acquire? id with
          | none => exact sound
          | some next => exact sound.acquire acquired
      | running => exact sound.release found stage
      | released => exact sound.sweep found stage
      | departing => exact sound.depart id

/-- A turn keeps callers and locks together. -/
theorem Sound.take (sound : flights.Sound) (turn : Turn) : (flights.take turn).Sound := by
  cases turn with
  | enter invocation => exact sound.enter invocation.keyText
  | advance id => exact sound.advance id

/-- Callers and locks belong together after any turns. -/
theorem Sound.run (sound : flights.Sound) (turns : List Turn) : (flights.run turns).Sound := by
  induction turns generalizing flights with
  | nil => exact sound
  | cons turn rest inductionHypothesis => exact inductionHypothesis (sound.take turn)

/-- In whatever order callers take their turns, one caller at most runs with a key, and
everybody who waits for a lock or holds it finds that very lock listed under the key. -/
theorem runs_alone_with_listed_lock
    (turns : List Turn)
    {id : CallerId}
    {caller : Caller}
    (found : (run {} turns).callers.find? id = some caller) :
    (caller.stage = .waiting ∨ caller.stage = .running →
      (run {} turns).locks.find? caller.key = some caller.lock) ∧
    (caller.stage = .running →
      ∀ other otherCaller, (run {} turns).callers.find? other = some otherCaller →
        otherCaller.key = caller.key → otherCaller.stage = .running → other = id) := by
  have sound : (run {} turns).Sound := sound_empty.run turns
  constructor
  · intro seated
    apply sound.listed id caller found
    intro departing
    rw [departing] at seated
    obtain waiting | running := seated
    · cases waiting
    · cases running
  · intro running other otherCaller otherFound sameKey otherRunning
    exact sound.runsAlone otherFound found sameKey otherRunning running

/-- Two callers with one key, and a third one that enters it when the first one has
released the lock and the second one runs. -/
def queueingTurns : List Turn :=
  [.enter { method := "page" }, .advance 0, .enter { method := "page" }, .advance 1,
    .advance 0, .advance 1, .advance 0, .enter { method := "page" }, .advance 0, .advance 2]

/-- The second of two callers with one key runs, with its lock listed and a third one
waiting. -/
theorem runs_alone_with_listed_lock_queueing :
    (run {} queueingTurns).callers.find? 1 =
      some { key := "|page", lock := 0, stage := .running } ∧
    (run {} queueingTurns).callers.find? 2 =
      some { key := "|page", lock := 0, stage := .waiting } ∧
    (run {} queueingTurns).locks.find? "|page" = some 0 ∧
    ∀ other otherCaller, (run {} queueingTurns).callers.find? other = some otherCaller →
      otherCaller.key = "|page" → otherCaller.stage = .running → other = 1 := by
  have running : (run {} queueingTurns).callers.find? 1 =
      some { key := "|page", lock := 0, stage := .running } := by
    decide +kernel
  have waiting : (run {} queueingTurns).callers.find? 2 =
      some { key := "|page", lock := 0, stage := .waiting } := by
    decide +kernel
  obtain ⟨listed, -⟩ := runs_alone_with_listed_lock queueingTurns waiting
  obtain ⟨-, alone⟩ := runs_alone_with_listed_lock queueingTurns running
  exact ⟨running, waiting, listed (Or.inl rfl), alone rfl⟩

end Flights
end FragmentCache
