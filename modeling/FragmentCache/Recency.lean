/-!
# Recency lists

A recency list orders values from the one touched longest ago to the one touched
last.  Its nodes live in slots that link to each other by number, so a position
stays valid while other nodes come, move and go.  Freed slots are used again, the
last freed one first.
-/

namespace FragmentCache
namespace Recency

/-- Number of the slot that a node lives in. -/
abbrev Position := Nat

/-- Largest position, which is a word of 32 bits. -/
def lastPosition : Position := 4294967295

/-- Number of positions. -/
def positionCount : Nat := lastPosition + 1

/-- A value with its neighbours in the list. -/
structure Node (α : Type) where
  value : α
  /-- The node touched just before this one. -/
  previous : Option Position := none
  /-- The node touched just after this one. -/
  next : Option Position := none

end Recency

/-- A list of values in the order in which they were touched. -/
structure Recency (α : Type) where
  /-- Nodes by position; none in a free slot. -/
  slots : Array (Option (Recency.Node α)) := #[]
  /-- Free slots, the last freed one first. -/
  free : List Recency.Position := []
  /-- The node touched longest ago. -/
  head : Option Recency.Position := none
  /-- The node touched last. -/
  tail : Option Recency.Position := none
  /-- Number of nodes. -/
  size : Nat := 0

namespace Recency

variable {α : Type}

instance : Inhabited (Recency α) := ⟨{}⟩

/-- The list without values. -/
def empty : Recency α := {}

/-- Whether a list has no values. -/
def isEmpty (list : Recency α) : Bool := list.size == 0

/-- The node at a position. -/
def node? (list : Recency α) (position : Position) : Option (Node α) :=
  list.slots[position]?.join

/-- The value at a position. -/
def get? (list : Recency α) (position : Position) : Option α :=
  (list.node? position).map Node.value

/-- Change the node at a position, if there is one. -/
def adjust (list : Recency α) (position : Position) (change : Node α → Node α) :
    Recency α :=
  match list.node? position with
  | some node => { list with slots := list.slots.setIfInBounds position (some (change node)) }
  | none => list

/-- Link the given neighbour before a node to the one after it. -/
def linkNext (list : Recency α) (previous next : Option Position) : Recency α :=
  match previous with
  | some position =>
    if (list.node? position).isSome then
      list.adjust position fun node => { node with next }
    else { list with head := next }
  | none => { list with head := next }

/-- Link the given neighbour after a node to the one before it. -/
def linkPrevious (list : Recency α) (previous next : Option Position) : Recency α :=
  match next with
  | some position =>
    if (list.node? position).isSome then
      list.adjust position fun node => { node with previous }
    else { list with tail := previous }
  | none => { list with tail := previous }

/-- Join the neighbours of a node that leaves its place. -/
def unlink (list : Recency α) (previous next : Option Position) : Recency α :=
  (list.linkNext previous next).linkPrevious previous next

/-- Put a node without neighbours into a free slot.  A slot beyond the last position
would be taken for the last one. -/
def allocate (list : Recency α) (value : α) : Recency α × Position :=
  match list.free with
  | position :: free =>
    ({ list with
        slots := list.slots.setIfInBounds position (some { value })
        free }, position)
  | [] =>
    ({ list with slots := list.slots.push (some { value }) },
      min list.slots.size lastPosition)

/-- Link a node without neighbours behind the last one. -/
def linkBack (list : Recency α) (position : Position) : Recency α :=
  let linked := match list.tail with
    | some last =>
      (list.adjust last fun node => { node with next := some position }).adjust position
        fun node => { node with previous := some last }
    | none => { list with head := some position }
  { linked with tail := some position }

/-- Add a value as the one touched last. -/
def pushBack (list : Recency α) (value : α) : Recency α × Position :=
  let (allocated, position) := list.allocate value
  let linked := allocated.linkBack position
  ({ linked with size := linked.size + 1 }, position)

/-- Remove the node at a position. -/
def remove (list : Recency α) (position : Position) : Recency α × Option α :=
  match list.node? position with
  | none => (list, none)
  | some node =>
    let freed := { list with slots := list.slots.setIfInBounds position none }
    let unlinked := freed.unlink node.previous node.next
    ({ unlinked with free := position :: unlinked.free, size := unlinked.size - 1 },
      some node.value)

/-- Remove the node touched longest ago. -/
def popFront (list : Recency α) : Recency α × Option α :=
  match list.head with
  | some position => list.remove position
  | none => (list, none)

/-- Make the node at a position the one touched last. -/
def moveToBack (list : Recency α) (position : Position) : Recency α :=
  if list.tail = some position then list
  else match list.node? position with
    | none => list
    | some node =>
      ((list.unlink node.previous node.next).adjust position
        fun node => { node with previous := none, next := none }).linkBack position

/-- Positions and values along the links, starting at a node. -/
def itemsFrom (list : Recency α) : Nat → Option Position → List (Position × α)
  | 0, _ => []
  | _, none => []
  | fuel + 1, some position =>
    match list.node? position with
    | some node => (position, node.value) :: list.itemsFrom fuel node.next
    | none => []

/-- Positions and values, the one touched longest ago first.  The links visit no
slot twice. -/
def items (list : Recency α) : List (Position × α) :=
  list.itemsFrom list.slots.size list.head

/-- The values, the one touched longest ago first. -/
def toList (list : Recency α) : List α := list.items.map Prod.snd

end Recency
end FragmentCache
