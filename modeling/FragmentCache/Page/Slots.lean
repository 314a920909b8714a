import FragmentCache.Document

/-!
# Slots

The documents of a page are collected in slots, one for every block.  A slot is
filled once.  Who waits for the slots closes them in the end: what is still empty
receives a document that says so, and nothing is accepted any more.
-/

namespace FragmentCache
namespace Slots

/-- Misuse of slots. -/
inductive Fault where
  | alreadyExpecting (count : Nat)
  | stopped
  | outOfRange (slot slots : Nat)
  deriving DecidableEq

/-- Text of a fault. -/
def Fault.message : Fault → String
  | alreadyExpecting count => "context already expects " ++ toString count ++ " results"
  | stopped => "context is stopped"
  | outOfRange slot slots =>
    "slot " ++ toString slot ++ " out of range for " ++ toString slots ++ " slots"

/-- How a wait ended. -/
inductive Outcome where
  /-- Every slot was filled. -/
  | completed
  /-- Some slots were empty. -/
  | timedOut (missing : Nat)
  deriving DecidableEq

end Slots

/-- Slots for the documents of a page. -/
structure Slots where
  /-- Documents, none in an empty slot. -/
  documents : List (Option Document) := []
  /-- Name of the block of every slot. -/
  labels : List String := []
  /-- Number of filled slots. -/
  filled : Nat := 0
  /-- Whether the slots were made. -/
  isExpecting : Bool := false
  /-- Whether nothing is accepted any more. -/
  isStopped : Bool := false

namespace Slots

instance : Inhabited Slots := ⟨{}⟩

/-- Number of slots. -/
def size (slots : Slots) : Nat := slots.documents.length

/-- Whether there are no slots. -/
def isEmpty (slots : Slots) : Bool := slots.size == 0

/-- Make one empty slot for every label. -/
def expectLabels (slots : Slots) (labels : List String) : Except Fault Slots :=
  if slots.isStopped then .error .stopped
  else if slots.isExpecting then .error (.alreadyExpecting slots.size)
  else .ok { slots with
    documents := List.replicate labels.length none, labels, isExpecting := true }

/-- Label of a slot that was given none. -/
def numberedLabel (slot : Nat) : String := "slot-" ++ toString slot

/-- Make some empty slots. -/
def expect (slots : Slots) (count : Nat) : Except Fault Slots :=
  slots.expectLabels ((List.range count).map numberedLabel)

/-- Fill a slot; the answer says whether the document was taken. -/
def deliver (slots : Slots) (slot : Nat) (document : Document) :
    Slots × Except Fault Bool :=
  if slots.isStopped then (slots, .ok false)
  else match slots.documents[slot]? with
    | none => (slots, .error (.outOfRange slot slots.size))
    | some (some _) => (slots, .ok false)
    | some none =>
      ({ slots with
          documents := slots.documents.set slot (some document)
          filled := slots.filled + 1 }, .ok true)

/-- Accept nothing any more. -/
def stop (slots : Slots) : Slots := { slots with isStopped := true }

/-- Whether every slot is filled. -/
def isComplete (slots : Slots) : Bool := slots.size ≤ slots.filled

/-- Whether a wait has nothing to wait for. -/
def isOver (slots : Slots) : Bool := slots.isComplete || slots.isStopped

/-- Fill an empty slot with a document that names its block. -/
def fillLate (document : Option Document) (label : String) : Option Document :=
  some (document.getD (.timedOut label))

/-- Fill the empty slots and accept nothing any more. -/
def close (slots : Slots) : Slots × Outcome :=
  let missing := slots.documents.countP Option.isNone
  ({ slots with
      documents := slots.documents.zipWith fillLate slots.labels
      filled := slots.size
      isStopped := true },
    if missing = 0 then .completed else .timedOut missing)

theorem deliver_of_isStopped
    {slots : Slots}
    (stopped : slots.isStopped = true)
    (slot : Nat)
    (document : Document) :
    slots.deliver slot document = (slots, .ok false) := by
  simp [deliver, stopped]

@[simp] theorem isStopped_stop (slots : Slots) : slots.stop.isStopped = true := rfl

@[simp] theorem isStopped_close (slots : Slots) : slots.close.1.isStopped = true := rfl

end Slots
end FragmentCache
