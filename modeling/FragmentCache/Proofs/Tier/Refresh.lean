import FragmentCache.Proofs.Pool.Refresh
import FragmentCache.Proofs.Tier.Agreement

/-!
# Calls to refresh from pools and disk tiers

A disk tier keeps the mark of a document in the signature of its record, where it outlives
the tier.  So what happens to one key text over any loads, saves and removals, however often
the tier is opened again, is a history like that of a key of a pool.
-/

namespace FragmentCache

open FragmentCache.Shelf (Item)

namespace DiskRecord

/-- The first four bytes of a record are its mark. -/
theorem take_encode (record : DiskRecord) :
    record.encode.take 4 = Record.wordBytes (signature record.prefetchMarked) := by
  rw [encode_eq]
  exact List.take_left' (length_wordBytes _)

end DiskRecord

namespace DiskTier

open Refresh (Event Finding History)

/-! ## The history of a key text -/

/-- What is asked of a tier, with removals. -/
inductive Task where
  | serve (operation : Ledger.Operation)
  | remove (invocation : Invocation)
  deriving DecidableEq

/-- Key text of a task. -/
def Task.keyText? : Task → Option String
  | serve operation => operation.keyText?
  | remove invocation => some invocation.keyText

/-- Carry out a task; also the reply, if it is an operation. -/
def perform (tier : DiskTier) (files : FileTree) :
    Task → DiskTier × FileTree × Option Ledger.Reply
  | .serve operation =>
    let (tier, files, reply) := tier.answer files operation
    (tier, files, some reply)
  | .remove invocation => (tier, (tier.remove (CacheTier.keyFor tier invocation) files).1, none)

/-- Whether a file went from the signature of a record that nobody was told to refresh to that
of one that somebody was told to refresh. -/
def wasMarked (before after : Option Bytes) : Bool :=
  before.map (List.take 4) = some (Record.wordBytes DiskRecord.unmarkedSignature) &&
    after.map (List.take 4) = some (Record.wordBytes DiskRecord.markedSignature)

/-- What a load came upon, by the reply and the content of the file before and after. -/
def finding? (before after : Option Bytes) : Ledger.Reply → Option Finding
  | .found (some cached) => some (.hit cached)
  | .found none => some (if wasMarked before after then .signal else .miss)
  | .crashed crash => some (.crashed crash)
  | _ => none

/-- What a task is to a key text. -/
def event? (tier : DiskTier) (files after : FileTree) (text : String) :
    Task → Option Ledger.Reply → Option Event
  | .serve (.load invocation now), some reply =>
    let path := tier.pathFor (CacheTier.keyFor tier invocation)
    if invocation.keyText = text then
      (finding? (files.read? path) (after.read? path) reply).map
        (.loaded now (files.read? path).isSome)
    else none
  | .serve (.save invocation cached now _), _ =>
    if invocation.keyText = text then some (.saved cached now) else none
  | .remove invocation, _ => if invocation.keyText = text then some .swept else none
  | _, _ => none

/-- What happens to a key text in a run. -/
def history (tier : DiskTier) (files : FileTree) (text : String) : List Task → List Event
  | [] => []
  | task :: rest =>
    let (next, after, reply) := tier.perform files task
    (tier.event? files after text task reply).toList ++ next.history after text rest

/-! ## One task -/

variable {tier : DiskTier} {site : Site} {files : FileTree} {ledger : Ledger}
  {used : String → Prop} {text : String} {now : Timestamp} {kept next : Option Item}

theorem isSome_stored (kept : Option Item) (text : String) :
    (Ledger.stored kept text).isSome = kept.isSome := by
  rw [Ledger.stored, Option.isSome_map]

/-- The file of a used key text holds the record of what is kept. -/
theorem Holds.read?_path
    (holds : Holds site used files ledger)
    (at_ : tier.At site)
    {invocation : Invocation}
    (isUsed : used invocation.keyText) :
    files.read? (tier.pathFor (CacheTier.keyFor tier invocation)) =
      Ledger.stored (ledger invocation.keyText) invocation.keyText := by
  rw [at_.pathFor, holds.tidy.read?_path, holds.content _ isUsed]

theorem take_stored (item : Item) (text : String) :
    (Ledger.stored (some item) text).map (List.take 4) =
      some (Record.wordBytes (DiskRecord.signature item.prefetchMarked)) :=
  congrArg some (DiskRecord.take_encode (item.record text))

/-- A load tells who asked what the answer of the ledger is, a refresh by the mark. -/
theorem finding?_of_ask
    {answer : Pool.Answer}
    (asked : Ledger.ask kept now = .ok (next, answer)) :
    finding? (Ledger.stored kept text) (Ledger.stored next text)
        (.found (answer.hit?.map Cached.asNew)) = some (.of Cached.asNew answer) := by
  obtain ⟨rfl, rfl, rfl⟩ | ⟨item, rfl, -, rfl, rfl⟩ | ⟨item, rfl, -, due, rfl, rfl⟩ |
    ⟨item, rfl, -, -, rfl, rfl⟩ := Ledger.ask_cases asked
  · rfl
  · have unmarked : wasMarked (Ledger.stored (some item) text) (Ledger.stored none text) = false :=
      Bool.and_false _
    change some (if wasMarked _ _ then Finding.signal else .miss) = some .miss
    rw [unmarked]
    rfl
  · have first : item.prefetchMarked = false := by
      cases marked : item.prefetchMarked with
      | false => rfl
      | true =>
          rw [Item.dueAt, marked] at due
          cases due
    have marked : wasMarked (Ledger.stored (some item) text)
        (Ledger.stored (some { item with prefetchMarked := true }) text) = true := by
      rw [wasMarked, take_stored, take_stored, first, Bool.and_eq_true]
      exact ⟨decide_eq_true rfl, decide_eq_true rfl⟩
    change some (if wasMarked _ _ then Finding.signal else .miss) = some .signal
    rw [marked]
    rfl
  · rfl

variable {rest : List Event} {task : Task}

/-- What happens to a key text in a load is followed by what happens to it afterwards. -/
theorem history_load
    {invocation : Invocation}
    {later : Ledger}
    {reply : Ledger.Reply}
    {after : FileTree}
    (answered : ledger.answer (.load invocation now) = (later, reply))
    (held : files.read? (tier.pathFor (CacheTier.keyFor tier invocation)) =
      Ledger.stored (ledger invocation.keyText) invocation.keyText)
    (holdsAfter : after.read? (tier.pathFor (CacheTier.keyFor tier invocation)) =
      Ledger.stored (later invocation.keyText) invocation.keyText)
    (others : History Cached.asNew (later text) rest) :
    History Cached.asNew (ledger text)
      ((tier.event? files after text (.serve (.load invocation now)) (some reply.asNew)).toList ++
        rest) := by
  rw [event?, held, holdsAfter, isSome_stored]
  rw [Ledger.answer, Ledger.load] at answered
  cases asked : Ledger.ask (ledger invocation.keyText) now with
  | error crash =>
      rw [asked] at answered
      cases answered
      have unchanged : History Cached.asNew
          (ledger.put invocation.keyText (ledger invocation.keyText) text) rest := by
        rw [Ledger.put_self]
        exact others
      exact unchanged.put (.crashed asked)
  | ok kept =>
      obtain ⟨kept, answer⟩ := kept
      rw [asked] at answered
      cases answered
      have finding : finding? (Ledger.stored (ledger invocation.keyText) invocation.keyText)
          (Ledger.stored kept invocation.keyText) (Ledger.Reply.found (id answer).hit?).asNew =
            some (.of Cached.asNew answer) :=
        finding?_of_ask asked
      rw [Ledger.put_same, finding]
      exact others.put (.loaded asked)

/-- A task leaves files that hold another ledger, and what happens to a key text in it is
followed by what happens to it afterwards. -/
theorem Holds.perform
    (holds : Holds site used files ledger)
    (separate : Separate site used)
    (at_ : tier.At site)
    (isUsed : ∀ text, task.keyText? = some text → used text) :
    ∃ next after reply later, tier.perform files task = (next, after, reply) ∧ next.At site ∧
      Holds site used after later ∧
      ∀ text rest, History Cached.asNew (later text) rest →
        History Cached.asNew (ledger text)
          ((tier.event? files after text task reply).toList ++ rest) := by
  cases task with
  | serve operation =>
      obtain ⟨next, after, answered, nextAt, holdsAfter⟩ := holds.answer separate at_ isUsed
      refine ⟨next, after, some (ledger.answer operation).2.asNew, _, ?_, nextAt, holdsAfter, ?_⟩
      · rw [DiskTier.perform, answered]
      · intro text rest others
        cases operation with
        | load invocation now =>
            have textUsed : used invocation.keyText := isUsed invocation.keyText rfl
            exact history_load (Prod.eta _).symm (holds.read?_path at_ textUsed)
              (holdsAfter.read?_path at_ textUsed) others
        | save invocation cached now number =>
            have saved : (ledger.answer (.save invocation cached now number)).1 text =
                ledger.put invocation.keyText (some { cached, storedTime := now }) text := rfl
            rw [saved] at others
            exact others.put .saved
        | reopen => exact others
  | remove invocation =>
      have textUsed : used invocation.keyText := isUsed invocation.keyText rfl
      have turned := holds.tidy.removed invocation.keyText
      refine ⟨tier, (tier.remove (CacheTier.keyFor tier invocation) files).1, none,
        ledger.put invocation.keyText none, rfl, at_, ?_, ?_⟩
      · rw [at_.remove]
        exact holds.turned separate textUsed turned
      · intro text rest others
        refine others.put fun rest => .swept ?_ rest
        nofun

/-- The events of one key over a run of the disk tier are a history of its signals. -/
theorem Holds.history_run
    (holds : Holds site used files ledger)
    (separate : Separate site used)
    (at_ : tier.At site)
    {tasks : List Task}
    (isUsed : ∀ task ∈ tasks, ∀ text, task.keyText? = some text → used text)
    (text : String) :
    History Cached.asNew (ledger text) (tier.history files text tasks) := by
  induction tasks generalizing tier files ledger with
  | nil => exact .nil
  | cons task rest inductionHypothesis =>
      obtain ⟨firstUsed, restUsed⟩ := List.forall_mem_cons.1 isUsed
      obtain ⟨next, after, reply, later, performed, nextAt, holdsAfter, precedes⟩ :=
        holds.perform separate at_ firstUsed
      rw [history, performed]
      exact precedes text _ (inductionHypothesis holdsAfter nextAt restUsed)

end DiskTier

namespace Refresh

/-- Between two saves of a key one load at most is told to refresh the document, and every
other one finds it as long as it is there and fresh: in any run of a pool of any capacity, and
of a disk tier over an empty directory that is opened again any number of times. -/
theorem signals_once_per_save :
    (∀ capacity visits operations key,
      SignalsOncePerSave id (({ capacity } : Pool).history key visits operations)) ∧
    ∀ (settings : DiskTier.Settings) (files : FileTree) (home : FileTree.Place)
      (tasks : List DiskTier.Task),
      DiskTier.HasRoom settings.root →
      files.follow (files.start settings.root) (FilePath.segments settings.root) = .ok home →
      files.node? home = some .directory →
      (∀ first rest, files.node? (home ++ first :: rest) = none) →
      (∀ text ∈ tasks.filterMap DiskTier.Task.keyText?,
        (Text.toBytes text).length < UInt32.size) →
      (∀ first ∈ tasks.filterMap DiskTier.Task.keyText?,
        ∀ second ∈ tasks.filterMap DiskTier.Task.keyText?,
          Sha256.hexDigest first = Sha256.hexDigest second → first = second) →
      ∀ text, SignalsOncePerSave Cached.asNew
        (({ settings } : DiskTier).history files text tasks) := by
  constructor
  · intro capacity visits operations key
    exact (Pool.history_run { capacity } key visits operations).signalsOncePerSave
  · intro settings files home tasks hasRoom leads directory empty short apart text
    let site : DiskTier.Site := {
      root := settings.root, home, digest := Sha256.hexDigest, hasRoom
      isDigest := Sha256.isDigest_hexDigest }
    let used : String → Prop := fun text => text ∈ tasks.filterMap DiskTier.Task.keyText?
    have settled : site.Settled files := ⟨leads, directory⟩
    have separate : DiskTier.Separate site used :=
      ⟨short, fun first second firstUsed secondUsed => apart first firstUsed second secondUsed⟩
    have at_ : ({ settings } : DiskTier).At site := ⟨rfl, rfl⟩
    have isUsed : ∀ task ∈ tasks, ∀ text, task.keyText? = some text → used text :=
      fun task listed text has => List.mem_filterMap.2 ⟨task, listed, has⟩
    have holds := DiskTier.holds_empty settled empty used
    exact (holds.history_run separate at_ isUsed text).signalsOncePerSave

/-- Two saves of a key, each followed by loads near the end of its document. -/
def pooledTwice : List Pool.Operation :=
  [.save "a" (Pool.leafUntil 200) 100, .load "a" 196, .save "b" (Pool.leafUntil 300) 196,
    .load "a" 197, .save "a" (Pool.leafUntil 300) 198, .load "a" 296]

/-- A save and loads near the end of its document, with the tier opened again after the call
to refresh. -/
def filedReopened : List DiskTier.Task :=
  let page : Invocation := { method := "page" }
  [.serve (.save page DiskTier.oldLeaf 100 0), .serve (.load page 196), .serve .reopen,
    .serve (.load page 197)]

/-- What happens to the key of the pool. -/
def pooledEvents : List Event :=
  [.saved (Pool.leafUntil 200) 100, .loaded 196 true .signal,
    .loaded 197 true (.hit (Pool.leafUntil 200)), .saved (Pool.leafUntil 300) 198,
    .loaded 296 true .signal]

/-- What happens to the key text of the disk tier. -/
def filedEvents : List Event :=
  [.saved DiskTier.oldLeaf 100, .loaded 196 true .signal,
    .loaded 197 true (.hit DiskTier.oldLeaf.asNew)]

/-- A key is saved twice, and each time one load signals. -/
theorem signals_once_per_save_twice :
    ({ capacity := 2 } : Pool).history "a" (fun _ => .listed) pooledTwice = pooledEvents ∧
    ({ settings := { root := "cache" } } : DiskTier).history DiskTier.emptyCache "|page"
      filedReopened = filedEvents ∧
    SignalsOncePerSave id pooledEvents ∧ SignalsOncePerSave Cached.asNew filedEvents := by
  have pooledHistory :
      ({ capacity := 2 } : Pool).history "a" (fun _ => .listed) pooledTwice = pooledEvents := by
    decide
  have filedHistory :
      ({ settings := { root := "cache" } } : DiskTier).history DiskTier.emptyCache "|page"
        filedReopened = filedEvents := by
    decide +kernel
  have hasRoom : DiskTier.HasRoom ({ root := "cache" } : DiskTier.Settings).root := by
    decide +kernel
  have leads : DiskTier.emptyCache.follow (DiskTier.emptyCache.start "cache")
      (FilePath.segments "cache") = .ok ["cache"] := by
    decide +kernel
  have empty : ∀ first rest,
      DiskTier.emptyCache.node? (["cache"] ++ first :: rest) = none := by
    intro first rest
    rw [DiskTier.emptyCache, FileTree.node?_setNode _ (by decide), if_neg (by simp)]
    rfl
  obtain ⟨pooled, filed⟩ := signals_once_per_save
  have pooledOnce := pooled 2 (fun _ => .listed) pooledTwice "a"
  have filedOnce := filed { root := "cache" } DiskTier.emptyCache ["cache"] filedReopened hasRoom
    leads rfl empty (by decide +kernel) (by decide +kernel) "|page"
  rw [pooledHistory] at pooledOnce
  rw [filedHistory] at filedOnce
  exact ⟨pooledHistory, filedHistory, pooledOnce, filedOnce⟩

end Refresh
end FragmentCache
