import FragmentCache.Proofs.Chain.Run
import FragmentCache.Proofs.Tag.Window
import FragmentCache.Proofs.Tier.Lasting
import FragmentCache.Proofs.Tier.Memory
import FragmentCache.Proofs.Tier.Standard

/-!
# Signals of a chain

A tier signals when it tells the caller of a load to refresh the document.  To a chain
that is a miss, so the chain goes on to the next tier, which may still answer with the
document.  Here a disk tier follows a memory tier.  A signal of the disk tier always makes
the load a miss.  One of the memory tier comes to nothing only if the disk tier keeps the
document as stored at a later second, for less than a minute, and that copy is not due yet.
-/

namespace FragmentCache

/-- The clock never goes back. -/
def Surroundings.RunsForward (surroundings : Surroundings) : Prop :=
  ∀ index, surroundings.readings index ≤ surroundings.readings (index + 1)

/-! ## Signals -/

/-- Whether a load of a key at `now` tells its caller to refresh the document. -/
def MemoryTier.signals (tier : MemoryTier) (key : Key) (now : Timestamp) : Bool :=
  (tier.pool.load key.storageId now).toOption.map Prod.snd == some .needPrefetch

/-- Whether a load of a key at `now` tells its caller to refresh the document. -/
def DiskTier.signals (tier : DiskTier) (key : Key) (now : Timestamp) (files : FileTree) : Bool :=
  (judge key.text now (files.read? (tier.pathFor key))).toOption == some .refresh

/-- Whether a load of a key tells its caller to refresh the document. -/
def StandardTier.signals (key : Key) (surroundings : Surroundings) : StandardTier → Bool
  | memory tier => tier.signals key surroundings.readClock.1
  | disk tier => tier.signals key surroundings.readClock.1 surroundings.files

namespace Chain

/-- Names of the tiers that signal in a load. -/
def signalling (invocation : Invocation) : List (Counted StandardTier) → Surroundings →
    List String
  | [], _ => []
  | counted :: rest, surroundings =>
    let key := CacheTier.keyFor counted.tier invocation
    let asked := counted.load key surroundings
    (if counted.tier.signals key surroundings then [CacheTier.name counted.tier] else []) ++
      if asksNext asked.2.2 then signalling invocation rest asked.2.1 else []

/-! ## Two tiers -/

/-- The tiers of a chain without their counters. -/
def bareTiers {τ : Type} (chain : Chain τ) : List τ := chain.tiers.map Counted.tier

/-- Two bare tiers are the tiers of a chain without their counters. -/
theorem exists_pair
    {τ : Type}
    {chain : Chain τ}
    {first second : τ}
    (layers : chain.bareTiers = [first, second]) :
    ∃ upper lower, chain.tiers = [upper, lower] ∧ upper.tier = first ∧ lower.tier = second := by
  obtain ⟨upper, rest, tiers, upperTier, restTiers⟩ := List.map_eq_cons_iff.1 layers
  obtain ⟨lower, last, rfl, lowerTier, none⟩ := List.map_eq_cons_iff.1 restTiers
  obtain rfl := List.map_eq_nil_iff.1 none
  exact ⟨upper, lower, tiers, upperTier, lowerTier⟩

section Layers

variable {τ : Type} [CacheTier τ] {chain : Chain τ} {first second nextFirst nextSecond : τ}
  {invocation : Invocation} {cached : Cached} {surroundings between later : Surroundings}
  {answer : Except Crash (Option Cached)}

/-- The second tier is not asked when the first one answers with a document. -/
theorem load_of_stop
    (layers : chain.bareTiers = [first, second])
    (loaded : CacheTier.load first (CacheTier.keyFor first invocation) surroundings =
      (nextFirst, later, answer))
    (stops : asksNext answer = false) :
    ∃ next, chain.load invocation surroundings = (next, later, answer) ∧
      next.bareTiers = [nextFirst, second] := by
  obtain ⟨upper, lower, tiers, rfl, rfl⟩ := exists_pair layers
  have asked : loadFrom invocation chain.tiers surroundings =
      ([Counted.countLoad { upper with tier := nextFirst } answer, lower], later, answer) := by
    rw [tiers, loadFrom, Counted.load, loaded]
    cases answer with
    | error crash => rfl
    | ok found =>
        cases found with
        | none => cases stops
        | some hit => rfl
  rw [load, asked]
  refine ⟨_, rfl, ?_⟩
  rw [bareTiers, tiers_countLoad]
  simp only [List.map_cons, List.map_nil, Counted.tier_countLoad]

/-- When the first of two tiers misses, the second one gives the answer. -/
theorem load_of_miss
    (layers : chain.bareTiers = [first, second])
    (missed : CacheTier.load first (CacheTier.keyFor first invocation) surroundings =
      (nextFirst, between, .ok none))
    (loaded : CacheTier.load second (CacheTier.keyFor second invocation) between =
      (nextSecond, later, answer)) :
    ∃ next, chain.load invocation surroundings = (next, later, answer) ∧
      next.bareTiers = [nextFirst, nextSecond] := by
  obtain ⟨upper, lower, tiers, rfl, rfl⟩ := exists_pair layers
  have asked : loadFrom invocation chain.tiers surroundings =
      ([Counted.countLoad { upper with tier := nextFirst } (.ok none),
        Counted.countLoad { lower with tier := nextSecond } answer], later, answer) := by
    rw [tiers, loadFrom, Counted.load, missed]
    dsimp only
    rw [loadFrom, Counted.load, loaded]
    cases answer with
    | error crash => rfl
    | ok found => cases found <;> rfl
  rw [load, asked]
  refine ⟨_, rfl, ?_⟩
  rw [bareTiers, tiers_countLoad]
  simp only [List.map_cons, List.map_nil, Counted.tier_countLoad]

/-- Both tiers are asked to store a document. -/
theorem save_of_pair
    {firstStored secondStored : Bool}
    (layers : chain.bareTiers = [first, second])
    (firstSaved : CacheTier.save first (CacheTier.keyFor first invocation) cached surroundings =
      (nextFirst, between, firstStored))
    (secondSaved : CacheTier.save second (CacheTier.keyFor second invocation) cached between =
      (nextSecond, later, secondStored)) :
    ∃ next, chain.save invocation cached surroundings =
        (next, later, firstStored || (secondStored || false)) ∧
      next.bareTiers = [nextFirst, nextSecond] := by
  obtain ⟨upper, lower, tiers, rfl, rfl⟩ := exists_pair layers
  have asked : saveTo invocation cached chain.tiers surroundings =
      ([Counted.countSave { upper with tier := nextFirst } firstStored,
        Counted.countSave { lower with tier := nextSecond } secondStored], later,
        firstStored || (secondStored || false)) := by
    rw [tiers, saveTo, Counted.save, firstSaved]
    dsimp only
    rw [saveTo, Counted.save, secondSaved]
    rfl
  rw [save, asked]
  refine ⟨_, rfl, ?_⟩
  unfold countSave
  split <;> rfl

end Layers

section Signalling

variable {chain : Chain StandardTier} {first second next : StandardTier} {invocation : Invocation}
  {surroundings between : Surroundings} {answer : Except Crash (Option Cached)}

theorem signalling_of_stop
    (layers : chain.bareTiers = [first, second])
    (loaded : CacheTier.load first (CacheTier.keyFor first invocation) surroundings =
      (next, between, answer))
    (stops : asksNext answer = false) :
    signalling invocation chain.tiers surroundings =
      if first.signals (CacheTier.keyFor first invocation) surroundings
      then [CacheTier.name first] else [] := by
  obtain ⟨upper, lower, tiers, rfl, rfl⟩ := exists_pair layers
  rw [tiers, signalling, Counted.load, loaded]
  simp only [stops, Bool.false_eq_true, if_false, List.append_nil]

theorem signalling_of_miss
    (layers : chain.bareTiers = [first, second])
    (missed : CacheTier.load first (CacheTier.keyFor first invocation) surroundings =
      (next, between, .ok none)) :
    signalling invocation chain.tiers surroundings =
      (if first.signals (CacheTier.keyFor first invocation) surroundings
        then [CacheTier.name first] else []) ++
      if second.signals (CacheTier.keyFor second invocation) between
      then [CacheTier.name second] else [] := by
  obtain ⟨upper, lower, tiers, rfl, rfl⟩ := exists_pair layers
  have next : asksNext (.ok none) = true := rfl
  rw [tiers, signalling, Counted.load, missed]
  simp only [next, if_true, signalling, ite_self, List.append_nil]

end Signalling
end Chain

/-! ## Signals of the tiers -/

namespace StandardTier

variable {memory : MemoryTier} {disk : DiskTier} {invocation : Invocation}
  {surroundings : Surroundings} {site : DiskTier.Site}

theorem signals_memory_of_crash
    {crash : Crash}
    (crashed : memory.pool.load invocation.keyText surroundings.readClock.1 = .error crash) :
    (StandardTier.memory memory).signals
      (CacheTier.keyFor (StandardTier.memory memory) invocation) surroundings = false := by
  rw [keyFor_memory, StandardTier.signals, MemoryTier.signals, Key.raw_storageId, crashed]
  rfl

theorem signals_memory_of_load
    {pool : ShardedPool}
    {answer : Pool.Answer}
    (asked : memory.pool.load invocation.keyText surroundings.readClock.1 = .ok (pool, answer)) :
    (StandardTier.memory memory).signals
      (CacheTier.keyFor (StandardTier.memory memory) invocation) surroundings =
        decide (answer = .needPrefetch) := by
  rw [keyFor_memory, StandardTier.signals, MemoryTier.signals, Key.raw_storageId, asked]
  cases answer <;> rfl

/-- The disk tier signals when the file of the key is found due without a mark. -/
theorem signals_disk
    (at_ : disk.At site)
    (tidy : site.Tidy surroundings.files) :
    (StandardTier.disk disk).signals
        (CacheTier.keyFor (StandardTier.disk disk) invocation) surroundings =
      ((DiskTier.judge invocation.keyText surroundings.readClock.1
        (surroundings.files.contentAt? (site.place invocation.keyText))).toOption ==
          some .refresh) := by
  rw [keyFor_disk, StandardTier.signals, DiskTier.signals, at_.pathFor, tidy.read?_path]
  rfl

end StandardTier

/-! ## Paired copies -/

namespace Chain

open DiskTier (Site)
open FragmentCache.Shelf (Item)

/-- Every document that the memory tier keeps without a mark is kept by the disk tier as
well, without a mark and stored no earlier. -/
structure Filed (site : Site) (used : String → Prop) (memory : MemoryTier) (files : FileTree) :
    Prop where
  tidy : site.Tidy files
  filed : ∀ text, used text → ∀ item, memory.ledger text = some item →
    item.prefetchMarked = false → ∃ restored, item.storedTime ≤ restored ∧
      files.contentAt? (site.place text) =
        Ledger.stored (some { item with storedTime := restored }) text

section Paired

variable {site : Site} {used : String → Prop} {memory nextMemory : MemoryTier} {disk : DiskTier}
  {files after : FileTree} {text : String} {kept : Option Item} {content : Option Bytes}

/-- The tiers stay paired when both change under one key text only and are paired there. -/
theorem Filed.turned
    (filed : Filed site used memory files)
    (apart : ∀ other, used other → site.digest other = site.digest text → other = text)
    (within : nextMemory.ledger.Within (memory.ledger.put text kept))
    (turned : site.Turned files text content after)
    (paired : ∀ item, kept = some item → item.prefetchMarked = false → ∃ restored,
      item.storedTime ≤ restored ∧
        content = Ledger.stored (some { item with storedTime := restored }) text) :
    Filed site used nextMemory after where
  tidy := turned.tidy
  filed other otherUsed item there unmarked := by
    have before := within other item there
    rw [turned.content]
    rw [Ledger.put] at before
    by_cases same : other = text
    · subst same
      rw [if_pos rfl] at before ⊢
      exact paired item before unmarked
    · rw [if_neg same] at before
      rw [if_neg fun sameDigest => same (apart other otherUsed sameDigest)]
      exact filed.filed other otherUsed item before unmarked

/-- A load of the memory tier keeps what it keeps paired, and what it leaves without a
mark under the key text it answered with. -/
theorem Filed.asked
    (filed : Filed site used memory files)
    (isUsed : used text)
    {now : Timestamp}
    {answer : Pool.Answer}
    (asked : Ledger.ask (memory.ledger text) now = .ok (kept, answer)) :
    ∀ item, kept = some item → item.prefetchMarked = false → answer = .success item.cached ∧
      ∃ restored, item.storedTime ≤ restored ∧ files.contentAt? (site.place text) =
        Ledger.stored (some { item with storedTime := restored }) text := by
  intro item keeps unmarked
  obtain ⟨-, rfl, -⟩ | ⟨_, -, -, rfl, -⟩ | ⟨_, -, -, -, rfl, -⟩ | ⟨other, there, -, -, rfl, rfl⟩ :=
    Ledger.ask_cases asked
  · cases keeps
  · cases keeps
  · cases keeps
    cases unmarked
  · cases keeps
    exact ⟨rfl, filed.filed text isUsed item there unmarked⟩

end Paired

/-- A chain of a memory tier and a disk tier, and what they keep. -/
structure Paired (site : Site) (used : String → Prop) (chain : Chain StandardTier)
    (surroundings : Surroundings) (memory : MemoryTier) (disk : DiskTier) : Prop where
  layers : chain.bareTiers = [.memory memory, .disk disk]
  at_ : disk.At site
  filed : Filed site used memory surroundings.files

section Steps

variable {site : Site} {used : String → Prop} {chain : Chain StandardTier}
  {surroundings : Surroundings} {memory : MemoryTier} {disk : DiskTier} {invocation : Invocation}

/-- The key texts of two uses are the same when their digests are. -/
def Apart (site : Site) (used : String → Prop) : Prop :=
  ∀ first second, used first → used second → site.digest first = site.digest second → first = second

/-- When the memory tier misses, and keeps nothing without a mark of what it was asked for,
whatever the disk tier does leaves the tiers paired. -/
theorem Paired.load_below
    (paired : Paired site used chain surroundings memory disk)
    (others : ∀ other, used other → site.digest other = site.digest invocation.keyText →
      other = invocation.keyText)
    {nextMemory : MemoryTier}
    {between : Surroundings}
    (memoryLoaded : CacheTier.load (StandardTier.memory memory)
      (CacheTier.keyFor (StandardTier.memory memory) invocation) surroundings =
        (.memory nextMemory, between, .ok none))
    (sameFiles : between.files = surroundings.files)
    {kept : Option Item}
    (within : nextMemory.ledger.Within (memory.ledger.put invocation.keyText kept))
    (marked : ∀ item, kept = some item → item.prefetchMarked ≠ false) :
    ∃ next later answer nextDisk,
      chain.load invocation surroundings = (next, later, answer) ∧
        later.readings = between.readings ∧
          Paired site used next later nextMemory nextDisk := by
  have filed : Filed site used memory between.files := by
    rw [sameFiles]
    exact paired.filed
  cases judged : DiskTier.judge invocation.keyText between.readClock.1
      (between.files.contentAt? (site.place invocation.keyText)) with
  | error crash =>
      obtain ⟨next, loaded, layers⟩ := load_of_miss paired.layers memoryLoaded
        (StandardTier.load_disk_of_crash paired.at_ filed.tidy judged)
      refine ⟨next, _, _, disk, loaded, rfl, layers, paired.at_, ?_⟩
      exact filed.turned others within (filed.tidy.unturned invocation.keyText)
        fun item keeps unmarked => absurd unmarked (marked item keeps)
  | ok verdict =>
      obtain ⟨next, loaded, layers⟩ := load_of_miss paired.layers memoryLoaded
        (StandardTier.load_disk_of_judge paired.at_ filed.tidy judged)
      refine ⟨next, _, _, _, loaded, rfl, layers, paired.at_.count verdict, ?_⟩
      exact filed.turned others within (filed.tidy.act invocation.keyText verdict)
        fun item keeps unmarked => absurd unmarked (marked item keeps)

/-- A load leaves two tiers that keep what they should. -/
theorem Paired.load
    (paired : Paired site used chain surroundings memory disk)
    (apart : Apart site used)
    (isUsed : used invocation.keyText) :
    ∃ next later answer nextMemory nextDisk,
      chain.load invocation surroundings = (next, later, answer) ∧
        later.readings = surroundings.readings ∧
          Paired site used next later nextMemory nextDisk := by
  have others : ∀ other, used other → site.digest other = site.digest invocation.keyText →
      other = invocation.keyText := fun other otherUsed => apart _ _ otherUsed isUsed
  cases asked : memory.pool.load invocation.keyText surroundings.readClock.1 with
  | error crash =>
      obtain ⟨next, loaded, layers⟩ :=
        load_of_stop paired.layers (StandardTier.load_memory_of_crash asked) rfl
      exact ⟨next, _, _, memory, disk, loaded, rfl, layers, paired.at_, paired.filed⟩
  | ok answered =>
      obtain ⟨pool, answer⟩ := answered
      obtain ⟨nextMemory, memoryLoaded, samePool⟩ := StandardTier.load_memory_of_load asked
      obtain ⟨kept, keptAsked, changed⟩ := ShardedPool.asked_of_load asked
      have within : nextMemory.ledger.Within (memory.ledger.put invocation.keyText kept) := by
        rw [MemoryTier.ledger, samePool, changed]
        exact .refl _
      have unmarked := paired.filed.asked isUsed keptAsked
      cases hit : answer.hit? with
      | some cached =>
          rw [hit] at memoryLoaded
          obtain ⟨next, loaded, layers⟩ := load_of_stop paired.layers memoryLoaded rfl
          refine ⟨next, _, _, nextMemory, disk, loaded, rfl, layers, paired.at_, ?_⟩
          exact paired.filed.turned others within (paired.filed.tidy.unturned invocation.keyText)
            fun item keeps noMark => (unmarked item keeps noMark).2
      | none =>
          rw [hit] at memoryLoaded
          -- What the memory tier did not answer with, it keeps with a mark or not at all.
          have marked : ∀ item, kept = some item → item.prefetchMarked ≠ false := by
            intro item keeps noMark
            rw [(unmarked item keeps noMark).1] at hit
            cases hit
          obtain ⟨next, later, answer, nextDisk, loaded, readings, pairedNext⟩ :=
            paired.load_below others memoryLoaded rfl within marked
          exact ⟨next, later, answer, nextMemory, nextDisk, loaded, readings, pairedNext⟩

/-- A save leaves two tiers that keep what they should. -/
theorem Paired.save
    (paired : Paired site used chain surroundings memory disk)
    (apart : Apart site used)
    (forward : surroundings.RunsForward)
    (isUsed : used invocation.keyText)
    (cached : Cached) :
    ∃ next later stored nextMemory nextDisk,
      chain.save invocation cached surroundings = (next, later, stored) ∧
        later.readings = surroundings.readings ∧
          Paired site used next later nextMemory nextDisk := by
  have others : ∀ other, used other → site.digest other = site.digest invocation.keyText →
      other = invocation.keyText := fun other otherUsed => apart _ _ otherUsed isUsed
  let between := surroundings.readClock.2
  obtain ⟨saved, files, stored, savedAt, turned⟩ := paired.at_.saveAt paired.filed.tidy invocation
    cached between.readClock.1 between.numbersTaken
  obtain ⟨next, chainSaved, layers⟩ := save_of_pair paired.layers
    (StandardTier.save_memory cached) (StandardTier.save_disk_of_saveAt stored)
  refine ⟨next, _, _, _, saved, chainSaved, rfl, layers, savedAt, ?_⟩
  refine paired.filed.turned others (memory.pool.save_within _ _ _) turned ?_
  rintro item ⟨⟩ -
  exact ⟨_, forward surroundings.readingsTaken, rfl⟩

/-- After any operations on key texts in use the chain is paired. -/
theorem Paired.afterAll
    (paired : Paired site used chain surroundings memory disk)
    (apart : Apart site used)
    (forward : surroundings.RunsForward)
    {operations : List Operation}
    (isUsed : ∀ operation ∈ operations, used operation.keyText) :
    ∃ nextMemory nextDisk,
      Paired site used (chain.afterAll surroundings operations).1
        (chain.afterAll surroundings operations).2 nextMemory nextDisk ∧
      (chain.afterAll surroundings operations).2.readings = surroundings.readings := by
  induction operations generalizing chain surroundings memory disk with
  | nil => exact ⟨memory, disk, paired, rfl⟩
  | cons operation rest inductionHypothesis =>
      obtain ⟨firstUsed, restUsed⟩ := List.forall_mem_cons.1 isUsed
      obtain ⟨next, later, nextMemory, nextDisk, step, readings, pairedNext⟩ :
          ∃ next later nextMemory nextDisk, chain.after surroundings operation = (next, later) ∧
            later.readings = surroundings.readings ∧
              Paired site used next later nextMemory nextDisk := by
        cases operation with
        | load invocation =>
            obtain ⟨next, later, answer, nextMemory, nextDisk, loaded, readings, pairedNext⟩ :=
              paired.load apart firstUsed
            exact ⟨next, later, nextMemory, nextDisk, by rw [after, loaded], readings, pairedNext⟩
        | save invocation cached =>
            obtain ⟨next, later, stored, nextMemory, nextDisk, saved, readings, pairedNext⟩ :=
              paired.save apart forward firstUsed cached
            exact ⟨next, later, nextMemory, nextDisk, by rw [after, saved], readings, pairedNext⟩
      have forwardNext : later.RunsForward := by
        rw [Surroundings.RunsForward, readings]
        exact forward
      obtain ⟨finalMemory, finalDisk, pairedFinal, finalReadings⟩ :=
        inductionHypothesis pairedNext forwardNext restUsed
      rw [Chain.afterAll, step]
      exact ⟨finalMemory, finalDisk, pairedFinal, finalReadings.trans readings⟩

end Steps

/-! ## What a signal comes to -/

/-- How a signal of the memory tier comes to nothing: both tiers keep a document that was
saved while the clock went on, and the disk tier's copy is not due yet. -/
structure Overruled (memory : MemoryTier) (disk : DiskTier) (invocation : Invocation)
    (surroundings : Surroundings) (cached : Cached) (stored restored : Timestamp) : Prop where
  kept : memory.ledger invocation.keyText = some { cached, storedTime := stored }
  filed : surroundings.files.read? (disk.pathFor (CacheTier.keyFor disk invocation)) =
    Ledger.stored (some { cached, storedTime := restored }) invocation.keyText
  fits : (Text.toBytes invocation.keyText).length < UInt32.size
  later : stored < restored
  /-- The memory tier's reading is in the window of its copy. -/
  due : cached.tag.prefetchDueAt stored
    (surroundings.readings surroundings.readingsTaken) = .ok true
  fresh : cached.tag.expiredAt (surroundings.readings (surroundings.readingsTaken + 1)) = false
  /-- The disk tier's reading is not in the window of its copy. -/
  notDue : cached.tag.prefetchDueAt restored
    (surroundings.readings (surroundings.readingsTaken + 1)) = .ok false
  /-- The copy is kept for less than a minute. -/
  brief : restored ≠ Timestamp.undefined →
    cached.tag.expireTime.saturatingSub restored < Tag.fullCacheTime

/-- A memory tier signals for an unmarked document that is due. -/
theorem exists_item_of_signal
    {memory : MemoryTier}
    {pool : ShardedPool}
    {text : String}
    {now : Timestamp}
    (asked : memory.pool.load text now = .ok (pool, .needPrefetch)) :
    ∃ cached stored, memory.ledger text = some { cached, storedTime := stored } ∧
      cached.tag.prefetchDueAt stored now = .ok true := by
  obtain ⟨kept, keptAsked, -⟩ := ShardedPool.asked_of_load asked
  obtain ⟨-, -, same⟩ | ⟨_, -, -, -, same⟩ | ⟨item, there, -, due, -, -⟩ | ⟨_, -, -, -, -, same⟩ :=
    Ledger.ask_cases keptAsked
  · cases same
  · cases same
  · obtain ⟨cached, stored, marked⟩ := item
    cases marked with
    | true => cases due
    | false => exact ⟨cached, stored, there, due⟩
  · cases same

section Answers

variable {site : Site} {used : String → Prop} {chain : Chain StandardTier}
  {surroundings : Surroundings} {memory : MemoryTier} {disk : DiskTier} {invocation : Invocation}
  {cached : Cached} {stored restored : Timestamp}

/-- After a miss of the memory tier the disk tier's verdict answers. -/
theorem Paired.answer_of_miss
    (paired : Paired site used chain surroundings memory disk)
    {pool : ShardedPool}
    {answer : Pool.Answer}
    {verdict : DiskTier.Verdict}
    (asked : memory.pool.load invocation.keyText surroundings.readClock.1 = .ok (pool, answer))
    (missed : answer.hit? = none)
    (judged : DiskTier.judge invocation.keyText
      (surroundings.readings (surroundings.readingsTaken + 1))
      (surroundings.files.contentAt? (site.place invocation.keyText)) = .ok verdict) :
    (chain.load invocation surroundings).2.2 = .ok verdict.hit? := by
  obtain ⟨nextMemory, memoryLoaded, -⟩ := StandardTier.load_memory_of_load asked
  rw [missed] at memoryLoaded
  have tidy : site.Tidy surroundings.readClock.2.files := paired.filed.tidy
  have diskLoaded := StandardTier.load_disk_of_judge paired.at_ tidy judged
  obtain ⟨next, loaded, -⟩ := load_of_miss paired.layers memoryLoaded diskLoaded
  rw [loaded]

/-- When the memory tier does not answer, it signals what it says, and the disk tier what
its file says. -/
theorem Paired.signalling_of_miss
    (paired : Paired site used chain surroundings memory disk)
    {pool : ShardedPool}
    {answer : Pool.Answer}
    (asked : memory.pool.load invocation.keyText surroundings.readClock.1 = .ok (pool, answer))
    (missed : answer.hit? = none) :
    signalling invocation chain.tiers surroundings =
      (if answer = .needPrefetch then ["Memory"] else []) ++
      if (DiskTier.judge invocation.keyText
          (surroundings.readings (surroundings.readingsTaken + 1))
          (surroundings.files.contentAt? (site.place invocation.keyText))).toOption ==
            some .refresh
      then ["Disk"] else [] := by
  obtain ⟨nextMemory, memoryLoaded, -⟩ := StandardTier.load_memory_of_load asked
  rw [missed] at memoryLoaded
  have tidy : site.Tidy surroundings.readClock.2.files := paired.filed.tidy
  rw [Chain.signalling_of_miss paired.layers memoryLoaded,
    StandardTier.signals_memory_of_load asked, StandardTier.signals_disk paired.at_ tidy]
  simp only [decide_eq_true_eq]
  rfl

/-- A signal of the memory tier leaves the answer to the disk tier's copy. -/
theorem Paired.load_of_memory_signal
    (paired : Paired site used chain surroundings memory disk)
    (forward : surroundings.RunsForward)
    (isUsed : used invocation.keyText)
    {pool : ShardedPool}
    (asked : memory.pool.load invocation.keyText surroundings.readClock.1 =
      .ok (pool, .needPrefetch)) :
    (chain.load invocation surroundings).2.2 = .ok none ∨ ∃ cached stored restored,
      Overruled memory disk invocation surroundings cached stored restored := by
  have tidy := paired.filed.tidy
  obtain ⟨cached, stored, there, due⟩ := exists_item_of_signal asked
  obtain ⟨restored, atMost, content⟩ := paired.filed.filed _ isUsed _ there rfl
  let second := surroundings.readings (surroundings.readingsTaken + 1)
  by_cases fits : (Text.toBytes invocation.keyText).length < UInt32.size
  · have judged := DiskTier.judge_stored fits (some { cached, storedTime := restored }) second
    rw [← content] at judged
    cases expired : ({ cached, storedTime := restored } : Item).expiredAt second with
    | true =>
        rw [Ledger.ask_of_expired expired] at judged
        exact .inl (paired.answer_of_miss asked rfl judged)
    | false =>
        rw [Ledger.ask_of_fresh expired] at judged
        have fresh : cached.tag.expiredAt second = false := expired
        have later := forward surroundings.readingsTaken
        obtain ⟨left, -, -, byWindow, -⟩ := Tag.prefetchDueAt_later due later
          (Tag.ahead_of_fresh (Tag.hasExpireTime_of_due due) fresh)
        have dueOnDisk : ({ cached, storedTime := restored } : Item).dueAt second =
          .ok (cached.tag.inWindow (cached.tag.takenAt? restored) left) := byWindow restored
        rw [dueOnDisk] at judged
        cases within : cached.tag.inWindow (cached.tag.takenAt? restored) left with
        | true =>
            rw [within] at judged
            exact .inl (paired.answer_of_miss asked rfl judged)
        | false =>
            have notDue : cached.tag.prefetchDueAt restored second = .ok false :=
              (byWindow restored).trans (by rw [within])
            obtain ⟨differ, brief⟩ := Tag.apart_of_due_of_not_due due later fresh notDue
            refine .inr ⟨cached, stored, restored, there, ?_, fits,
              Int64.lt_of_le_of_ne atMost differ, due, fresh, notDue, brief⟩
            rw [paired.at_.pathFor, tidy.read?_path]
            exact content
  · obtain ⟨verdict, judged, -, noHit⟩ := DiskTier.judge_of_long (Nat.not_lt.1 fits) second
      (surroundings.files.contentAt? (site.place invocation.keyText))
    left
    rw [paired.answer_of_miss asked rfl judged, noHit]

/-- A signal makes a load miss, or it is overruled. -/
theorem Paired.load_of_signal
    (paired : Paired site used chain surroundings memory disk)
    (forward : surroundings.RunsForward)
    (isUsed : used invocation.keyText)
    (signal : signalling invocation chain.tiers surroundings ≠ []) :
    (chain.load invocation surroundings).2.2 = .ok none ∨ ∃ cached stored restored,
      Overruled memory disk invocation surroundings cached stored restored := by
  cases asked : memory.pool.load invocation.keyText surroundings.readClock.1 with
  | error crash =>
      rw [signalling_of_stop paired.layers (StandardTier.load_memory_of_crash asked) rfl,
        StandardTier.signals_memory_of_crash asked] at signal
      exact absurd rfl signal
  | ok answered =>
      obtain ⟨pool, answer⟩ := answered
      cases missed : answer.hit? with
      | some hit =>
          obtain ⟨nextMemory, memoryLoaded, -⟩ := StandardTier.load_memory_of_load asked
          rw [missed] at memoryLoaded
          have quiet : answer ≠ .needPrefetch := by
            rintro rfl
            cases missed
          rw [signalling_of_stop paired.layers memoryLoaded rfl,
            StandardTier.signals_memory_of_load asked, decide_eq_false quiet] at signal
          exact absurd rfl signal
      | none =>
          by_cases memorySignals : answer = .needPrefetch
          · subst memorySignals
            exact paired.load_of_memory_signal forward isUsed asked
          · rw [paired.signalling_of_miss asked missed, if_neg memorySignals, List.nil_append] at signal
            left
            cases judged : DiskTier.judge invocation.keyText
                (surroundings.readings (surroundings.readingsTaken + 1))
                (surroundings.files.contentAt? (site.place invocation.keyText)) with
            | error crash =>
                rw [judged] at signal
                exact absurd rfl signal
            | ok verdict =>
                have refreshes : verdict = .refresh := by
                  by_contra other
                  rw [judged, if_neg (by simpa [Except.toOption] using other)] at signal
                  exact absurd rfl signal
                rw [paired.answer_of_miss asked missed judged, refreshes]
                rfl

/-- A signal of the memory tier comes to nothing when the disk tier's copy is not due. -/
theorem Paired.load_of_overruled
    (paired : Paired site used chain surroundings memory disk)
    (forward : surroundings.RunsForward)
    (overruled : Overruled memory disk invocation surroundings cached stored restored) :
    signalling invocation chain.tiers surroundings = ["Memory"] ∧
      (chain.load invocation surroundings).2.2 = .ok (some cached.asNew) := by
  let first := surroundings.readings surroundings.readingsTaken
  let second := surroundings.readings (surroundings.readingsTaken + 1)
  have keptAsked : Ledger.ask (memory.ledger invocation.keyText) first =
      .ok (some { cached, storedTime := stored, prefetchMarked := true }, .needPrefetch) := by
    have due : ({ cached, storedTime := stored } : Item).dueAt first = .ok true := overruled.due
    have freshBefore : ({ cached, storedTime := stored } : Item).expiredAt first = false :=
      Tag.fresh_of_le (forward surroundings.readingsTaken) overruled.fresh
    rw [overruled.kept, Ledger.ask_of_fresh freshBefore, due]
    rfl
  obtain ⟨pool, asked⟩ := ShardedPool.load_of_ask keptAsked
  have judged := DiskTier.judge_stored overruled.fits
    (some { cached, storedTime := restored }) second
  have notDue : ({ cached, storedTime := restored } : Item).dueAt second = .ok false :=
    overruled.notDue
  have freshThen : ({ cached, storedTime := restored } : Item).expiredAt second = false :=
    overruled.fresh
  have tidy := paired.filed.tidy
  rw [Ledger.ask_of_fresh freshThen, notDue, ← overruled.filed, paired.at_.pathFor,
    tidy.read?_path] at judged
  refine ⟨?_, paired.answer_of_miss asked rfl judged⟩
  rw [paired.signalling_of_miss asked rfl, judged]
  rfl

end Answers

theorem ledger_new (settings : MemoryTier.Settings) :
    (MemoryTier.new settings).ledger = Ledger.empty :=
  ShardedPool.ledger_new _ _

/-- After any operations of a chain that starts with an empty memory tier, a load in which
a tier signals is a miss unless the signal is overruled; and an overruled signal is one of
the memory tier, whose document the load finds on the disk. -/
theorem miss_of_signal_unless_overruled
    {site : Site}
    {disk : DiskTier}
    (at_ : disk.At site)
    (settings : MemoryTier.Settings)
    {surroundings : Surroundings}
    (tidy : site.Tidy surroundings.files)
    (forward : surroundings.RunsForward)
    (operations : List Operation)
    (invocation : Invocation)
    (apart : ∀ first ∈ invocation.keyText :: operations.map Operation.keyText,
      ∀ second ∈ invocation.keyText :: operations.map Operation.keyText,
        site.digest first = site.digest second → first = second)
    {chain : Chain StandardTier}
    {now : Surroundings}
    (reached : (ofTiers [.memory (.new settings), .disk disk]).afterAll surroundings operations =
      (chain, now)) :
    ∃ memory disk, chain.bareTiers = [.memory memory, .disk disk] ∧
      (signalling invocation chain.tiers now ≠ [] →
        (chain.load invocation now).2.2 = .ok none ∨ ∃ cached stored restored,
          Overruled memory disk invocation now cached stored restored) ∧
      ∀ cached stored restored, Overruled memory disk invocation now cached stored restored →
        signalling invocation chain.tiers now = ["Memory"] ∧
          (chain.load invocation now).2.2 = .ok (some cached.asNew) := by
  let used : String → Prop := fun text =>
    text ∈ invocation.keyText :: operations.map Operation.keyText
  have nothing : Filed site used (MemoryTier.new settings) surroundings.files := by
    refine ⟨tidy, fun text _ item there => ?_⟩
    rw [ledger_new] at there
    cases there
  have start : Paired site used (ofTiers [.memory (.new settings), .disk disk]) surroundings
      (.new settings) disk := ⟨rfl, at_, nothing⟩
  have isApart : Apart site used := fun first second firstUsed secondUsed =>
    apart first firstUsed second secondUsed
  have isUsed : ∀ operation ∈ operations, used operation.keyText := fun operation listed =>
    List.mem_cons_of_mem _ (List.mem_map_of_mem listed)
  obtain ⟨nextMemory, nextDisk, paired, readings⟩ := start.afterAll isApart forward isUsed
  rw [reached] at paired readings
  have forwardNow : now.RunsForward := by
    rw [Surroundings.RunsForward, readings]
    exact forward
  exact ⟨nextMemory, nextDisk, paired.layers,
    paired.load_of_signal forwardNow List.mem_cons_self,
    fun _ _ _ overruled => paired.load_of_overruled forwardNow overruled⟩

/-! ## A save during which the clock goes on -/

/-- A clock that goes on between the two readings of the first save. -/
def ticking : Surroundings where
  readings
    | 0 => 100
    | 1 => 101
    | 2 | 3 => 113
    | _ => 114

def diskHere : DiskTier := { settings := { root := "." } }

def siteHere : Site where
  root := "."
  home := []
  digest := Sha256.hexDigest
  hasRoom := by decide +kernel
  isDigest := Sha256.isDigest_hexDigest

def shortLived : Cached := ⟨{ expireTime := 115 }, ⟨"<brief/>", by decide⟩⟩

/-- A chain that saved a document, and its surroundings. -/
def tickedOver : Chain StandardTier × Surroundings :=
  (ofTiers [.memory (.new {}), .disk diskHere]).afterAll ticking [.save { method := "page" } shortLived]

/-- The memory tier signals, and the disk tier's copy is a hit. -/
theorem load_tickedOver :
    signalling { method := "page" } tickedOver.1.tiers tickedOver.2 = ["Memory"] ∧
    (tickedOver.1.load { method := "page" } tickedOver.2).2.2 = .ok (some shortLived) := by
  decide +kernel

/-- The same chain after a load. -/
def askedOnce : Chain StandardTier × Surroundings :=
  tickedOver.1.after tickedOver.2 (.load { method := "page" })

/-- Two seconds are a window of fifteen seconds, and less are one of fourteen.  The load
finds the document although the memory tier told its caller to refresh it, and so does the
next load, which is not told. -/
theorem hit_although_memory_signals :
    signalling { method := "page" } tickedOver.1.tiers tickedOver.2 = ["Memory"] ∧
    (tickedOver.1.load { method := "page" } tickedOver.2).2.2 = .ok (some shortLived) ∧
    signalling { method := "page" } askedOnce.1.tiers askedOnce.2 = [] ∧
    (askedOnce.1.load { method := "page" } askedOnce.2).2.2 = .ok (some shortLived) :=
  ⟨load_tickedOver.1, load_tickedOver.2, by decide +kernel⟩

/-- The clock that ticks between the two readings is what overrules the signal. -/
theorem miss_of_signal_unless_overruled_ticking :
    signalling { method := "page" } tickedOver.1.tiers tickedOver.2 ≠ [] ∧
    ∃ memory disk cached stored restored,
      tickedOver.1.bareTiers = [.memory memory, .disk disk] ∧
        Overruled memory disk { method := "page" } tickedOver.2 cached stored restored := by
  have signal : signalling { method := "page" } tickedOver.1.tiers tickedOver.2 ≠ [] := by
    rw [load_tickedOver.1]
    exact List.cons_ne_nil _ _
  have found : (tickedOver.1.load { method := "page" } tickedOver.2).2.2 ≠ .ok none := by
    rw [load_tickedOver.2]
    exact nofun
  have reached : tickedOver = (tickedOver.1, tickedOver.2) := Prod.mk.eta.symm
  have settled : siteHere.Settled ticking.files := ⟨by decide +kernel, rfl⟩
  have tidy : siteHere.Tidy ticking.files := settled.tidy fun _ _ => rfl
  have forward : ticking.RunsForward := by
    intro index
    match index with
    | 0 | 1 | 2 | 3 => decide
    | _ + 4 => exact Int64.le_refl _
  have only : ∀ text first : String, first ∈ [text, text] → first = text := by
    intro text first listed
    simpa using listed
  obtain ⟨memory, disk, layers, answered, -⟩ := @miss_of_signal_unless_overruled siteHere diskHere
    ⟨rfl, rfl⟩ {} ticking tidy forward [.save { method := "page" } shortLived] { method := "page" }
    (fun first firstListed second secondListed _ =>
      (only _ first firstListed).trans (only _ second secondListed).symm) _ _ reached
  obtain missed | ⟨cached, stored, restored, overruled⟩ := answered signal
  · exact absurd missed found
  · exact ⟨signal, memory, disk, cached, stored, restored, layers, overruled⟩

end Chain
end FragmentCache
