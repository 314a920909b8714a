import FragmentCache.Block.Call
import FragmentCache.Page.Crew
import FragmentCache.Page.Slots

/-!
# Pages

A page is the documents of its blocks, in their order.  The caller hands threaded
blocks to workers that are idle and runs the others itself, then waits until every
slot is filled or its time is up.  The steps of the caller and of the workers may
come in any order.
-/

namespace FragmentCache
namespace Page

open Block (Shared)
open Block.Call (Stage)

/-- Number of a slot. -/
abbrev Slot := Nat

end Page

/-- A page that is being put together. -/
structure Page (τ σ : Type) where
  blocks : List (Block σ)
  request : Request
  shared : Block.Shared τ σ
  /-- Workers; a task is the slot of a block. -/
  crew : Crew Page.Slot
  slots : Slots
  /-- Calls of the blocks that were handed out. -/
  calls : Table Page.Slot Block.Call.Stage := .empty
  /-- Number of blocks that were handed out. -/
  handedOut : Nat := 0
  /-- Slot of the block that the caller runs. -/
  onCaller : Option Page.Slot := none
  /-- Whether the caller has ended its wait. -/
  isAnswered : Bool := false

namespace Page

variable {τ σ : Type}

/-- Document of an answer; a block that gave none is named in it. -/
def documentOf (name : String) : Block.Answer → Document
  | .ok (.ok document) => document
  | .ok (.error fault) => .error name fault.message
  | .error _ => .error name "block panicked"

/-- Begin a page. -/
def new (blocks : List (Block σ)) (request : Request) (crew : Crew Slot)
    (shared : Block.Shared τ σ) : Page τ σ :=
  let labels := blocks.map Block.name
  { blocks, request, shared, crew
    slots := (({} : Slots).expectLabels labels).toOption.getD {} }

/-- Fill the slot of a block with its answer. -/
def deliver (page : Page τ σ) (slot : Slot) (answer : Block.Answer) : Page τ σ :=
  match page.blocks[slot]? with
  | some block =>
    { page with slots := (page.slots.deliver slot (documentOf block.name answer)).1 }
  | none => page

/-- Start the call of a block on the caller. -/
def startOnCaller (page : Page τ σ) (slot : Slot) : Page τ σ :=
  { page with onCaller := some slot }

/-- Hand out the next block. -/
def handOut (page : Page τ σ) (block : Block σ) : Page τ σ :=
  let slot := page.handedOut
  let next := { page with handedOut := slot + 1, calls := page.calls.put slot .asking }
  if block.isThreaded then
    match page.crew.invoke slot with
    | (crew, .queued) => { next with crew }
    | (crew, .inline) => { next with crew }.startOnCaller slot
  else next.startOnCaller slot

/-- End the wait. -/
def close (page : Page τ σ) : Page τ σ :=
  { page with slots := page.slots.close.1, isAnswered := true }

/-- Whether the caller waits for the slots. -/
def isWaiting (page : Page τ σ) : Bool :=
  page.onCaller.isNone && page.blocks.length ≤ page.handedOut && !page.isAnswered

variable [CacheTier τ]

/-- Take one step of the call of a slot. -/
def stepCall (page : Page τ σ) (slot : Slot) : Page τ σ :=
  match page.blocks[slot]?, page.calls.find? slot with
  | some block, some stage =>
    match Block.Call.step? block page.request stage page.shared with
    | some (stage, shared) => { page with calls := page.calls.put slot stage, shared }
    | none => page
  | _, _ => page

/-- The answer of the call of a slot that is finished. -/
def answer? (page : Page τ σ) (slot : Slot) : Option Block.Answer :=
  (page.calls.find? slot).bind Block.Call.Stage.answer?

/-- The caller takes a step: it goes on with its own block, hands out the next one,
or ends its wait when the slots are filled. -/
def stepCaller (page : Page τ σ) : Page τ σ :=
  match page.onCaller with
  | some slot =>
    match page.answer? slot with
    | some answer => { page.deliver slot answer with onCaller := none }
    | none => page.stepCall slot
  | none =>
    match page.blocks[page.handedOut]? with
    | some block => page.handOut block
    | none => if !page.isAnswered && page.slots.isOver then page.close else page

/-- The caller's time is up. -/
def expire (page : Page τ σ) : Page τ σ := if page.isWaiting then page.close else page

/-- A worker takes a step. -/
def stepWorker (page : Page τ σ) (index : Nat) : Page τ σ :=
  match page.crew.task? index with
  | some slot =>
    match page.answer? slot with
    | some answer =>
      { page.deliver slot answer with crew := page.crew.finish index false }
    | none => page.stepCall slot
  | none => { page with crew := page.crew.step index }

/-! ## A usual course -/

/-- The caller goes on until it waits. -/
def runCaller : Nat → Page τ σ → Page τ σ
  | 0, page => page
  | fuel + 1, page => if page.isWaiting then page else runCaller fuel page.stepCaller

/-- Whether a worker has something to do: it is not parked, and not at work that
ends only after the page was answered. -/
def isActive (page : Page τ σ) (index : Nat) : Bool :=
  match page.crew.workers[index]? with
  | some .starting | some .woken => true
  | some (.busy slot) =>
    page.isAnswered || !(page.calls.find? slot).any Block.Call.Stage.isLate
  | _ => false

/-- A worker goes on as long as it has something to do. -/
def runWorker (index : Nat) : Nat → Page τ σ → Page τ σ
  | 0, page => page
  | fuel + 1, page =>
    if page.isActive index then runWorker index fuel (page.stepWorker index) else page

/-- Largest number of steps for one block. -/
def longestBlock : Nat := Block.Call.longestCall + 3

/-- Largest number of steps for all blocks. -/
def longestPage (page : Page τ σ) : Nat := longestBlock * (page.blocks.length + 1)

/-- All workers go on, one after the other, and again as often as one may have waited
for another. -/
def runWorkers (page : Page τ σ) : Page τ σ :=
  let round (page : Page τ σ) : Page τ σ :=
    (List.range page.crew.size).foldl
      (fun page index => runWorker index page.longestPage page) page
  Nat.repeat round (page.blocks.length + 1) page

/-- The documents of an answered page. -/
def documents (page : Page τ σ) : List Document :=
  page.slots.documents.zipWith
    (fun document block => document.getD (.timedOut block.name)) page.blocks

/-- Put a page together: all blocks are handed out before a worker begins, the
workers go on as far as they can, the wait ends, and late work ends after it. -/
def run (page : Page τ σ) : Page τ σ :=
  let handedOut := runCaller page.longestPage page
  let worked := handedOut.runWorkers
  let answered := worked.stepCaller.expire
  answered.runWorkers

end Page
end FragmentCache
