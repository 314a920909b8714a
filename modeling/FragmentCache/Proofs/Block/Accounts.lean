import FragmentCache.Proofs.Block.Seating

/-!
# Accounts of calls

Work is done by everybody who entered when no lock was listed, and by the first to
acquire the lock if it had found the lock listed.  Whoever else acquires the lock looks
again and finds a document.  The accounts say so at any moment between two moves.
-/

namespace FragmentCache
namespace Block

open Flights (CallerId)

/-! ## Accounts -/

/-- The documents that some work made. -/
def documentsOf (executions : List Outcome) : List Document :=
  executions.filterMap fun
    | .ok (.ok cached) => some cached.document
    | _ => none

/-- Whether the first to acquire the lock had found it listed: one who entered before
was overtaken. -/
def overtaken (acquisitions : List Bool) : Nat :=
  if acquisitions.head? = some true then 1 else 0

/-- An event is passed over by what it tells nothing about. -/
theorem filterMap_concat_of_none
    {α : Type}
    {tell : Event → Option α}
    {event : Event}
    (silent : tell event = none)
    (log : List Event) :
    (log ++ [event]).filterMap tell = log.filterMap tell := by
  rw [List.filterMap_append, List.filterMap_cons_none silent]
  exact List.append_nil _

namespace Call

/-- Whether the stage is followed by work. -/
def Stage.isDue (kept : Option Document) : Stage → Bool
  | starting _ => true
  | rechecking _ => kept.isNone
  | _ => false

/-- Whether a call waits for a lock that it listed itself. -/
def Stage.waitsFirst : Stage → Bool
  | waiting _ contended => !contended
  | _ => false

/-- What a stage tells about the document kept and the documents made. -/
def Stage.Fits (kept : Option Document) (made : List Document) : Stage → Prop
  | starting none | running none _ => False
  | running (some _) run => ∃ cached, run.outcome = .ok (.ok cached) ∧ cached.document ∈ made
  | releasing _ answer | sweeping _ answer | departing _ answer | finished answer =>
    kept.isSome = true ∧ ∃ document ∈ made, answer = .ok (.ok document)
  | _ => True

/-- What happened agrees with what the calls see and with the stages they are in. -/
structure Balanced (key : String) (desk : Desk) (stages : List Stage) (log : List Event) :
    Prop where
  fits : ∀ stage ∈ stages,
    stage.Fits desk.kept (documentsOf (log.filterMap Event.executed?))
  made : ∀ document, desk.kept = some document →
    document ∈ documentsOf (log.filterMap Event.executed?)
  /-- Work follows from acquisitions. -/
  counted : (log.filterMap Event.executed?).length + stages.countP (Stage.isDue desk.kept) =
    (log.filterMap Event.acquired?).count false + overtaken (log.filterMap Event.acquired?)
  /-- Who entered first either acquired the lock or waits for it. -/
  entered : (log.filterMap Event.entered?).count false =
    (log.filterMap Event.acquired?).count false + stages.countP Stage.waitsFirst
  /-- Only a lock's holder can have left nothing yet. -/
  held : log.filterMap Event.acquired? ≠ [] → desk.kept = none → ∃ stage ∈ stages, stage.Holds
  unused : log.filterMap Event.acquired? = [] → desk.kept = none
  holding : ∀ stage ∈ stages, stage.Holds → log.filterMap Event.acquired? ≠ []
  listed : desk.flights.locks.contains key = true →
    0 < (log.filterMap Event.entered?).count false
  acquired : log.filterMap Event.acquired? ≠ [] →
    0 < (log.filterMap Event.entered?).count false

variable {key : String} {desk after : Desk} {stage next : Stage} {stages others : List Stage}
  {log : List Event}

/-- The accounts do not depend on the order in which the calls are listed. -/
theorem Balanced.perm
    (balanced : Balanced key desk stages log)
    (reordered : stages.Perm others) :
    Balanced key desk others log where
  fits stage member := balanced.fits stage (reordered.mem_iff.2 member)
  made := balanced.made
  counted := by
    rw [← reordered.countP_eq]
    exact balanced.counted
  entered := by
    rw [← reordered.countP_eq]
    exact balanced.entered
  held some nothing := by
    obtain ⟨stage, member, holds⟩ := balanced.held some nothing
    exact ⟨stage, reordered.mem_iff.1 member, holds⟩
  unused := balanced.unused
  holding stage member := balanced.holding stage (reordered.mem_iff.2 member)
  listed := balanced.listed
  acquired := balanced.acquired

/-- A stage still fits when more documents were made and one is kept for good. -/
theorem Stage.Fits.mono
    {kept later : Option Document}
    {made more : List Document}
    (fits : stage.Fits kept made)
    (stays : kept.isSome = true → later.isSome = true)
    (included : ∀ document ∈ made, document ∈ more) :
    stage.Fits later more := by
  have answered : ∀ answer : Answer,
      (kept.isSome = true ∧ ∃ document ∈ made, answer = .ok (.ok document)) →
        later.isSome = true ∧ ∃ document ∈ more, answer = .ok (.ok document) := by
    rintro answer ⟨isKept, document, member, same⟩
    exact ⟨stays isKept, document, included document member, same⟩
  cases stage with
  | asking => trivial
  | arriving => trivial
  | waiting => trivial
  | rechecking => trivial
  | starting caller => cases caller with
      | none => exact fits
      | some caller => trivial
  | running caller run => cases caller with
      | none => exact fits
      | some caller =>
          obtain ⟨cached, outcome, member⟩ := fits
          exact ⟨cached, outcome, included _ member⟩
  | releasing => exact answered _ fits
  | sweeping => exact answered _ fits
  | departing => exact answered _ fits
  | finished => exact answered _ fits

/-- A move that is not noticed keeps the accounts if the call neither becomes due nor
stops being so, and does not let go of the lock before a document is kept. -/
theorem Balanced.unnoticed
    (balanced : Balanced key desk (stage :: others) log)
    (silent : Gathering.noticed stage next = [])
    (sameKept : after.kept = desk.kept)
    (listed : after.flights.locks.contains key = true → desk.flights.locks.contains key = true)
    (fits : next.Fits desk.kept (documentsOf (log.filterMap Event.executed?)))
    (sameDue : next.isDue desk.kept = stage.isDue desk.kept)
    (sameWait : next.waitsFirst = stage.waitsFirst)
    (released : stage.Holds → next.Holds ∨ desk.kept ≠ none)
    (seized : next.Holds → stage.Holds) :
    Balanced key after (next :: others) (log ++ Gathering.noticed stage next) := by
  rw [silent, List.append_nil]
  constructor
  · intro neighbour member
    rw [sameKept]
    obtain rfl | member := List.mem_cons.1 member
    · exact fits
    · exact balanced.fits neighbour (List.mem_cons_of_mem _ member)
  · rw [sameKept]
    exact balanced.made
  · have counted := balanced.counted
    rw [List.countP_cons] at counted ⊢
    rw [sameKept, sameDue]
    exact counted
  · have entered := balanced.entered
    rw [List.countP_cons] at entered ⊢
    rw [sameWait]
    exact entered
  · rw [sameKept]
    intro some nothing
    obtain ⟨holder, member, holds⟩ := balanced.held some nothing
    obtain rfl | member := List.mem_cons.1 member
    · obtain still | isKept := released holds
      · exact ⟨next, List.mem_cons_self, still⟩
      · exact absurd nothing isKept
    · exact ⟨holder, List.mem_cons_of_mem _ member, holds⟩
  · rw [sameKept]
    exact balanced.unused
  · intro holder member holds
    obtain rfl | member := List.mem_cons.1 member
    · exact balanced.holding stage List.mem_cons_self (seized holds)
    · exact balanced.holding holder (List.mem_cons_of_mem _ member) holds
  · intro isListed
    exact balanced.listed (listed isListed)
  · exact balanced.acquired

/-! ## Moves -/

/-- Who enters when no lock is listed waits for the lock that it lists itself. -/
theorem Balanced.entered_enter
    (balanced : Balanced key desk (.arriving :: others) log)
    (caller : CallerId)
    (contended : Bool) :
    (log.filterMap Event.entered? ++ [contended]).count false =
      (log.filterMap Event.acquired?).count false +
        (Stage.waiting caller contended :: others).countP Stage.waitsFirst := by
  have entered := balanced.entered
  rw [List.countP_cons] at entered ⊢
  rw [List.count_append]
  cases contended with
  | false =>
      change _ = _ + (_ + 0) at entered
      change _ + 1 = _ + (_ + 1)
      omega
  | true => exact entered

/-- Entering leaves the accounts in order, whether the lock was listed already or not. -/
theorem Balanced.enter (balanced : Balanced key desk (.arriving :: others) log) :
    Balanced key { desk with flights := (desk.flights.enter key).1 }
      (.waiting desk.flights.nextCaller (desk.flights.locks.contains key) :: others)
      (log ++ [.entered (desk.flights.locks.contains key)]) := by
  have entries : (log ++ [Event.entered (desk.flights.locks.contains key)]).filterMap
      Event.entered? = log.filterMap Event.entered? ++ [desk.flights.locks.contains key] :=
    List.filterMap_append
  have acquisitions : (log ++ [Event.entered (desk.flights.locks.contains key)]).filterMap
      Event.acquired? = log.filterMap Event.acquired? :=
    filterMap_concat_of_none rfl log
  have executions : (log ++ [Event.entered (desk.flights.locks.contains key)]).filterMap
      Event.executed? = log.filterMap Event.executed? :=
    filterMap_concat_of_none rfl log
  constructor
  · intro neighbour member
    rw [executions]
    obtain rfl | member := List.mem_cons.1 member
    · trivial
    · exact balanced.fits neighbour (List.mem_cons_of_mem _ member)
  · rw [executions]
    exact balanced.made
  · rw [executions, acquisitions]
    exact balanced.counted
  · rw [entries, acquisitions]
    exact balanced.entered_enter _ _
  · rw [acquisitions]
    intro some nothing
    obtain ⟨holder, member, holds⟩ := balanced.held some nothing
    obtain rfl | member := List.mem_cons.1 member
    · exact holds.elim
    · exact ⟨holder, List.mem_cons_of_mem _ member, holds⟩
  · rw [acquisitions]
    exact balanced.unused
  · intro holder member holds
    rw [acquisitions]
    obtain rfl | member := List.mem_cons.1 member
    · exact holds.elim
    · exact balanced.holding holder (List.mem_cons_of_mem _ member) holds
  · intro _
    rw [entries, List.count_append]
    cases contained : desk.flights.locks.contains key with
    | false => exact Nat.succ_pos _
    | true => exact Nat.lt_of_lt_of_le (balanced.listed contained) (Nat.le_add_right _ _)
  · rw [entries, acquisitions, List.count_append]
    intro some
    exact Nat.lt_of_lt_of_le (balanced.acquired some) (Nat.le_add_right _ _)

/-- Only the first acquisition tells whether somebody was overtaken. -/
theorem overtaken_append_of_ne_nil
    {acquisitions : List Bool}
    (some : acquisitions ≠ [])
    (contended : Bool) :
    overtaken (acquisitions ++ [contended]) = overtaken acquisitions := by
  unfold overtaken
  rw [List.head?_append_of_ne_nil _ some]

theorem overtaken_concat_false (acquisitions : List Bool) :
    overtaken (acquisitions ++ [false]) = overtaken acquisitions := by
  cases acquisitions with
  | nil => rfl
  | cons first rest => rfl

section Acquire

variable {caller : CallerId} {contended : Bool}

/-- When nobody holds the lock any more, whoever acquired it left a document. -/
theorem Balanced.isNone_kept_of_free
    (balanced : Balanced key desk stages log)
    (free : ∀ neighbour ∈ stages, ¬neighbour.Holds)
    (some : log.filterMap Event.acquired? ≠ []) :
    desk.kept.isNone = false := by
  rw [Option.isNone_eq_false_iff, Option.isSome_iff_ne_none]
  intro nothing
  obtain ⟨holder, member, isHolder⟩ := balanced.held some nothing
  exact free holder member isHolder

/-- An acquisition adds as much work to what follows as to what follows from acquisitions. -/
theorem Balanced.counted_acquire
    (balanced : Balanced key desk (.waiting caller contended :: others) log)
    (free : ∀ neighbour ∈ Stage.waiting caller contended :: others, ¬neighbour.Holds)
    (due : next.isDue desk.kept = (!contended || desk.kept.isNone)) :
    (log.filterMap Event.executed?).length + (next :: others).countP (Stage.isDue desk.kept) =
      (log.filterMap Event.acquired? ++ [contended]).count false +
        overtaken (log.filterMap Event.acquired? ++ [contended]) := by
  have counted := balanced.counted
  rw [List.countP_cons] at counted ⊢
  rw [List.count_append, due]
  cases contended with
  | false =>
      change _ + (_ + 0) = _ at counted
      rw [overtaken_concat_false]
      change _ + (_ + 1) = _ + 1 + _
      omega
  | true =>
      change _ + (_ + 0) = _ at counted
      -- Who had found the lock listed works only if it is the first to acquire it.
      by_cases none : log.filterMap Event.acquired? = []
      · rw [none, balanced.unused none] at counted ⊢
        change _ = 0 + 0 at counted
        change _ + (_ + 1) = 0 + 0 + 1
        omega
      · rw [overtaken_append_of_ne_nil none, balanced.isNone_kept_of_free free none]
        exact counted

/-- Who entered first acquires the lock instead of waiting for it. -/
theorem Balanced.entered_acquire
    (balanced : Balanced key desk (.waiting caller contended :: others) log)
    (waited : next.waitsFirst = false) :
    (log.filterMap Event.entered?).count false =
      (log.filterMap Event.acquired? ++ [contended]).count false +
        (next :: others).countP Stage.waitsFirst := by
  have entered := balanced.entered
  rw [List.countP_cons] at entered ⊢
  rw [List.count_append, waited]
  cases contended with
  | false =>
      change _ = _ + (_ + 1) at entered
      change _ = _ + 1 + (_ + 0)
      omega
  | true => exact entered

/-- An acquisition makes the call due, unless a document is kept that it will find. -/
theorem Balanced.acquire
    {flights : Flights}
    (balanced : Balanced key desk (.waiting caller contended :: others) log)
    (isListed : desk.flights.locks.contains key = true)
    (free : ∀ neighbour ∈ Stage.waiting caller contended :: others, ¬neighbour.Holds)
    (holds : next.Holds)
    (fits : next.Fits desk.kept (documentsOf (log.filterMap Event.executed?)))
    (waited : next.waitsFirst = false)
    (due : next.isDue desk.kept = (!contended || desk.kept.isNone)) :
    Balanced key { desk with flights } (next :: others) (log ++ [.acquired contended]) := by
  have entries : (log ++ [Event.acquired contended]).filterMap Event.entered? =
      log.filterMap Event.entered? :=
    filterMap_concat_of_none rfl log
  have acquisitions : (log ++ [Event.acquired contended]).filterMap Event.acquired? =
      log.filterMap Event.acquired? ++ [contended] :=
    List.filterMap_append
  have executions : (log ++ [Event.acquired contended]).filterMap Event.executed? =
      log.filterMap Event.executed? :=
    filterMap_concat_of_none rfl log
  have someNow : log.filterMap Event.acquired? ++ [contended] ≠ [] :=
    List.append_ne_nil_of_right_ne_nil _ (List.cons_ne_nil _ _)
  constructor
  · intro neighbour member
    rw [executions]
    obtain rfl | member := List.mem_cons.1 member
    · exact fits
    · exact balanced.fits neighbour (List.mem_cons_of_mem _ member)
  · rw [executions]
    exact balanced.made
  · rw [executions, acquisitions]
    exact balanced.counted_acquire free due
  · rw [entries, acquisitions]
    exact balanced.entered_acquire waited
  · intro _ _
    exact ⟨next, List.mem_cons_self, holds⟩
  · rw [acquisitions]
    intro none
    exact absurd none someNow
  · intro _ _ _
    rw [acquisitions]
    exact someNow
  · rw [entries]
    intro _
    exact balanced.listed isListed
  · rw [entries]
    intro _
    exact balanced.listed isListed

end Acquire

theorem documentsOf_concat
    (executions : List Outcome)
    (cached : Cached) :
    documentsOf (executions ++ [.ok (.ok cached)]) =
      documentsOf executions ++ [cached.document] :=
  List.filterMap_append

/-- Work that starts was due, and leaves a document among those that were made. -/
theorem Balanced.start
    {caller : CallerId}
    {run : Run}
    {cached : Cached}
    (balanced : Balanced key desk (.starting (some caller) :: others) log)
    (outcome : run.outcome = .ok (.ok cached)) :
    Balanced key desk (.running (some caller) run :: others) (log ++ [.executed run.outcome]) := by
  have entries : (log ++ [Event.executed run.outcome]).filterMap Event.entered? =
      log.filterMap Event.entered? :=
    filterMap_concat_of_none rfl log
  have acquisitions : (log ++ [Event.executed run.outcome]).filterMap Event.acquired? =
      log.filterMap Event.acquired? :=
    filterMap_concat_of_none rfl log
  have executions : (log ++ [Event.executed run.outcome]).filterMap Event.executed? =
      log.filterMap Event.executed? ++ [.ok (.ok cached)] := by
    rw [List.filterMap_append, outcome]
    rfl
  have included : ∀ document ∈ documentsOf (log.filterMap Event.executed?),
      document ∈ documentsOf (log.filterMap Event.executed? ++ [.ok (.ok cached)]) := by
    intro document member
    rw [documentsOf_concat]
    exact List.mem_append_left _ member
  constructor
  · intro neighbour member
    rw [executions]
    obtain rfl | member := List.mem_cons.1 member
    · refine ⟨cached, outcome, ?_⟩
      rw [documentsOf_concat]
      exact List.mem_append_right _ (List.mem_singleton_self _)
    · exact (balanced.fits neighbour (List.mem_cons_of_mem _ member)).mono id included
  · intro document isKept
    rw [executions]
    exact included document (balanced.made document isKept)
  · have counted := balanced.counted
    rw [List.countP_cons] at counted ⊢
    rw [executions, acquisitions, List.length_append, List.length_singleton]
    change _ + (_ + 1) = _ at counted
    change _ + 1 + (_ + 0) = _
    omega
  · rw [entries, acquisitions]
    exact balanced.entered
  · intro _ _
    exact ⟨_, List.mem_cons_self, trivial⟩
  · rw [acquisitions]
    exact balanced.unused
  · intro _ _ _
    rw [acquisitions]
    exact balanced.holding _ List.mem_cons_self trivial
  · rw [entries]
    exact balanced.listed
  · rw [entries, acquisitions]
    exact balanced.acquired

/-- Work that ends leaves a document for everybody who looks again. -/
theorem Balanced.conclude
    {caller : CallerId}
    {run : Run}
    {cached : Cached}
    (balanced : Balanced key desk (.running (some caller) run :: others) log)
    (alone : ∀ neighbour ∈ others, ¬neighbour.Holds)
    (outcome : run.outcome = .ok (.ok cached)) :
    Balanced key { desk with kept := some cached.document }
      (.releasing caller (.ok (.ok cached.document)) :: others) log := by
  have member : cached.document ∈ documentsOf (log.filterMap Event.executed?) := by
    obtain ⟨other, sameOutcome, member⟩ := balanced.fits _ List.mem_cons_self
    rw [outcome] at sameOutcome
    cases sameOutcome
    exact member
  have sameDue : others.countP (Stage.isDue (some cached.document)) =
      others.countP (Stage.isDue desk.kept) := by
    apply List.countP_congr
    intro neighbour listed
    cases neighbour with
    | rechecking other => exact absurd trivial (alone _ listed)
    | _ => rfl
  constructor
  · intro neighbour listed
    obtain rfl | listed := List.mem_cons.1 listed
    · exact ⟨rfl, cached.document, member, rfl⟩
    · exact (balanced.fits neighbour (List.mem_cons_of_mem _ listed)).mono (fun _ => rfl)
        fun _ made => made
  · intro document isKept
    cases isKept
    exact member
  · have counted := balanced.counted
    rw [List.countP_cons] at counted ⊢
    rw [sameDue]
    exact counted
  · exact balanced.entered
  · intro _ nothing
    cases nothing
  · intro none
    exact absurd none (balanced.holding _ List.mem_cons_self trivial)
  · intro _ _ _
    exact balanced.holding _ List.mem_cons_self trivial
  · exact balanced.listed
  · exact balanced.acquired

/-- Whoever waits finds a lock listed. -/
theorem Seated.contains_of_waiting
    {caller : CallerId}
    {contended : Bool}
    (seated : Seated key desk.flights (.waiting caller contended :: others)) :
    desk.flights.locks.contains key = true := by
  obtain ⟨lock, found⟩ := seated.listed _ List.mem_cons_self caller .waiting rfl
  have listed : desk.flights.locks.find? key = some lock :=
    seated.sound.listed caller _ found nofun
  rw [Table.contains, listed]
  rfl

/-- Every move of a seated call keeps the accounts. -/
theorem Balanced.move
    (balanced : Balanced key desk (stage :: others) log)
    (seated : Seated key desk.flights (stage :: others))
    (move : Move key desk stage after next) :
    Balanced key after (next :: others) (log ++ Gathering.noticed stage next) := by
  have fits := balanced.fits stage List.mem_cons_self
  cases move with
  | @hit document kept =>
      have isKept : desk.kept.isSome = true := by rw [kept]; rfl
      exact balanced.unnoticed rfl rfl id ⟨isKept, document, balanced.made document kept, rfl⟩
        rfl rfl False.elim id
  | miss => exact balanced.unnoticed rfl rfl id trivial rfl rfl False.elim id
  | enter => exact balanced.enter
  | acquireFirst acquired =>
      exact balanced.acquire seated.contains_of_waiting (seated.free_of_acquire rfl acquired)
        trivial trivial rfl rfl
  | acquireNext acquired =>
      exact balanced.acquire seated.contains_of_waiting (seated.free_of_acquire rfl acquired)
        trivial trivial rfl rfl
  | @recheckHit _ document kept =>
      have isKept : desk.kept.isSome = true := by rw [kept]; rfl
      have undue : false = desk.kept.isNone := by rw [kept]; rfl
      exact balanced.unnoticed rfl rfl id ⟨isKept, document, balanced.made document kept, rfl⟩
        undue rfl Or.inl id
  | recheckMiss kept =>
      have due : true = desk.kept.isNone := by rw [kept]; rfl
      exact balanced.unnoticed rfl rfl id trivial due rfl Or.inl id
  | start outcome => exact balanced.start outcome
  | conclude outcome =>
      have concluded := balanced.conclude (fun _ => seated.holds_alone trivial) outcome
      rw [← List.append_nil log] at concluded
      exact concluded
  | release =>
      have isKept : desk.kept ≠ none := Option.isSome_iff_ne_none.1 fits.1
      refine balanced.unnoticed rfl rfl ?_ fits rfl rfl (fun _ => Or.inr isKept) False.elim
      intro listed
      change ((desk.flights.setStage _ .released).locks.contains key) = true at listed
      rw [Flights.locks_setStage] at listed
      exact listed
  | sweep =>
      exact balanced.unnoticed rfl rfl Flights.contains_of_contains_sweep fits rfl rfl
        False.elim id
  | depart => exact balanced.unnoticed rfl rfl id fits rfl rfl False.elim id

end Call
end Block
end FragmentCache
