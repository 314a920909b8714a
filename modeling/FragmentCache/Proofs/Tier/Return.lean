import FragmentCache.Proofs.Pool.Run
import FragmentCache.Proofs.Tag.Window
import FragmentCache.Proofs.Tier.Agreement
import FragmentCache.Proofs.Tier.Disk.Loading
import FragmentCache.Proofs.Tier.Disk.Saving
import FragmentCache.Proofs.Tier.Memory
import FragmentCache.Proofs.Time

/-!
# Documents that were just saved

A document that is still valid is found by a load right after its save, in a pool and in
every tier, whatever was kept before and whatever the save had to drop.  Only one that
enters its window as it is stored is answered by the call to refresh it.
-/

namespace FragmentCache

open FragmentCache.DiskTier (Site emptyCache oldLeaf plainKey plainTier)
open FragmentCache.Shelf (Item)

/-! ## Copies that are due as they are stored -/

namespace Tag

/-- Whether a valid copy stored at `now` is due for a refresh at once: in its last second,
or, when the time of storing is the undefined one, in the window that its last
modification makes. -/
def dueAsStored (tag : Tag) (now : Timestamp) : Bool :=
  tag.hasExpireTime &&
    if now = Timestamp.undefined then
      let cacheTime :=
        if tag.hasLastModified then (tag.expireTime.saturatingSub tag.lastModified).toInt else 0
      decide (15 * tag.expireTime.toInt ≤ 15 + min 60 (max 0 cacheTime))
    else decide (tag.expireTime.toInt = now.toInt + 1)

/-- The seconds of validity that are left at `now` fit a timestamp. -/
def Spans (tag : Tag) (now : Timestamp) : Prop :=
  tag.hasExpireTime = true → tag.expireTime.toInt - now.toInt ≤ Timestamp.maxSeconds

variable {tag : Tag} {now : Timestamp}

theorem toInt_saturatingSub_of_ahead
    (ahead : now < tag.expireTime)
    (spans : tag.expireTime.toInt - now.toInt ≤ Timestamp.maxSeconds) :
    (tag.expireTime.saturatingSub now).toInt = tag.expireTime.toInt - now.toInt := by
  have aheadInt := Int64.lt_iff_toInt_lt.1 ahead
  rw [Timestamp.toInt_saturatingSub]
  omega

/-- With nothing but its last modification, or not even that, a copy is judged at the
undefined time by what its window is then. -/
theorem inWindow_undefined
    {left : Timestamp}
    (positive : 0 < left) :
    tag.inWindow (tag.takenAt? Timestamp.undefined) left = true ↔
      15 * left.toInt ≤ 15 + min 60 (max 0
        (if tag.hasLastModified then (tag.expireTime.saturatingSub tag.lastModified).toInt
          else 0)) := by
  rw [takenAt?, if_neg (not_not.2 rfl)]
  split
  · exact inWindow_iff tag tag.lastModified positive
  · have shortest : left ≤ shortestWindow ↔ left.toInt ≤ 1 := Int64.le_iff_toInt_le
    change decide (left ≤ shortestWindow) = true ↔ _
    rw [decide_eq_true_iff, shortest]
    omega

/-- Right after a save a tag is due as its whole lifetime says. -/
theorem prefetchDueAt_self
    (valid : tag.expiredAt now = false)
    (spans : tag.Spans now) :
    tag.prefetchDueAt now now = .ok (tag.dueAsStored now) := by
  cases expires : tag.hasExpireTime with
  | false => rw [prefetchDueAt, dueAsStored, expires]; rfl
  | true =>
      have ahead := ahead_of_fresh expires valid
      have left := toInt_saturatingSub_of_ahead ahead (spans expires)
      have positive : 0 < tag.expireTime.saturatingSub now := by
        have aheadInt := Int64.lt_iff_toInt_lt.1 ahead
        rw [Int64.lt_iff_toInt_lt, left, Int64.toInt_zero]
        omega
      rw [prefetchDueAt_of_ahead expires ahead left, dueAsStored, expires, Bool.true_and]
      refine congrArg Except.ok (Bool.eq_iff_iff.2 ?_)
      by_cases undefined : now = Timestamp.undefined
      · subst undefined
        have sameLeft : (tag.expireTime.saturatingSub Timestamp.undefined).toInt =
            tag.expireTime.toInt := left.trans (Int.sub_zero _)
        rw [inWindow_undefined positive, if_pos rfl, decide_eq_true_iff, sameLeft]
      · rw [takenAt?, if_pos undefined, inWindow_iff tag now positive, if_neg undefined,
          decide_eq_true_iff, left]
        rw [Int64.lt_iff_toInt_lt, left, Int64.toInt_zero] at positive
        omega

end Tag

/-! ## Loads right after a save -/

/-- How a document that was just saved and is valid is answered. -/
def Cached.returned (cached : Cached) (now : Timestamp) : Pool.Answer :=
  if cached.tag.dueAsStored now then .needPrefetch else .success cached

variable {cached : Cached} {now : Timestamp}

/-- Right after a save a ledger answers as the tag of what was saved says. -/
theorem Ledger.ask_just_saved
    (valid : cached.tag.expiredAt now = false)
    (spans : cached.tag.Spans now) :
    ∃ kept, Ledger.ask (some { cached, storedTime := now }) now =
      .ok (kept, cached.returned now) := by
  let item : Item := { cached, storedTime := now }
  have fresh : item.expiredAt now = false := valid
  have due : item.dueAt now = .ok (cached.tag.dueAsStored now) :=
    Tag.prefetchDueAt_self valid spans
  rw [Ledger.ask_of_fresh fresh, due, Cached.returned]
  cases cached.tag.dueAsStored now with
  | true => exact ⟨_, rfl⟩
  | false => exact ⟨_, rfl⟩

section

variable
  (valid : cached.tag.expiredAt now = false)
  (spans : cached.tag.Spans now)

include valid spans

/-- Right after a save a pool answers as the tag of what was saved says. -/
theorem Pool.load_just_saved (pool : Pool) (keys : List String) (key : String) :
    ∃ next, (pool.saveAlong keys key cached now).load key now =
      .ok (next, cached.returned now) := by
  obtain ⟨kept, asked⟩ := Ledger.ask_just_saved valid spans
  rw [← pool.kept_of_saveAlong keys key cached now] at asked
  exact Pool.load_of_ask asked

/-- Right after a save a memory tier answers as the tag of what was saved says. -/
theorem MemoryTier.load_just_saved (tier : MemoryTier) (key : Key) :
    ∃ next, (tier.saveAt key cached now).1.loadAt key now =
      .ok (next, (cached.returned now).hit?) := by
  obtain ⟨kept, asked⟩ := Ledger.ask_just_saved valid spans
  rw [← tier.pool.kept_of_save key.storageId cached now] at asked
  obtain ⟨pool, loaded⟩ := ShardedPool.load_of_ask asked
  have answered : (tier.saveAt key cached now).1.loadAt key now =
      ((tier.pool.save key.storageId cached now).load key.storageId now).map _ :=
    rfl
  rw [loaded] at answered
  exact ⟨_, answered⟩

namespace DiskTier

/-- The record that was just saved is judged as its document is returned. -/
theorem judge_just_saved
    {text : String}
    (short : (Text.toBytes text).length < UInt32.size) :
    judge text now (Ledger.stored (some { cached, storedTime := now }) text) =
      .ok (Verdict.of (cached.returned now)) := by
  obtain ⟨kept, asked⟩ := Ledger.ask_just_saved valid spans
  rw [judge_stored short, asked]
  rfl

/-- Whatever went wrong on the way, a save that tells it stored its document did. -/
theorem load_just_saved
    (mishaps : SaveJob.Mishaps)
    (tier : DiskTier)
    (key : Key)
    (number : Nat)
    (files : FileTree)
    (short : (Text.toBytes key.text).length < UInt32.size)
    {saved : DiskTier}
    {after : FileTree}
    (stored : tier.saveAmid mishaps key cached now number files = (saved, after, true)) :
    ∃ next left, saved.loadAt key now after =
      .ok (next, left, (cached.returned now).hit?.map Cached.asNew) := by
  let job := SaveJob.new (tier.pathFor key) number (recordBytes key cached now)
  obtain ⟨left, complete, ran⟩ : ∃ left complete, job.run mishaps files = (left, complete) :=
    ⟨_, _, rfl⟩
  rw [saveAmid, ran] at stored
  cases stored
  obtain ⟨place, found, content⟩ :=
    SaveJob.stored_of_run (show job.temporary = SaveJob.temporaryPath job.path number from rfl)
      rfl ran
  have present : after.contentAt? place =
      Ledger.stored (some { cached, storedTime := now }) key.text :=
    content
  have loaded := { tier with writes := tier.writes + 1 }.loadAt_of_judge found present
    (judge_just_saved valid spans short)
  rw [Verdict.hit?_of] at loaded
  exact ⟨_, _, loaded⟩

/-- Below a tidy root a save stores its document. -/
theorem At.load_just_saved
    {site : Site}
    {tier : DiskTier}
    {files : FileTree}
    (at_ : tier.At site)
    (tidy : site.Tidy files)
    (invocation : Invocation)
    (number : Nat)
    (short : (Text.toBytes invocation.keyText).length < UInt32.size) :
    ∃ saved after next left,
      tier.saveAt (CacheTier.keyFor tier invocation) cached now number files =
        (saved, after, true) ∧
      saved.loadAt (CacheTier.keyFor tier invocation) now after =
        .ok (next, left, (cached.returned now).hit?.map Cached.asNew) := by
  obtain ⟨saved, after, stored, savedAt, turned⟩ :=
    at_.saveAt tidy invocation cached now number
  have sameKey : CacheTier.keyFor saved invocation = CacheTier.keyFor tier invocation := by
    change Key.filed saved.digest invocation = Key.filed tier.digest invocation
    rw [savedAt.digest, at_.digest]
  have present : after.contentAt? (site.place invocation.keyText) =
      Ledger.stored (some { cached, storedTime := now }) invocation.keyText :=
    (turned.content _).trans (if_pos rfl)
  have loaded := savedAt.loadAt turned.tidy invocation now
  rw [present, judge_just_saved valid spans short, sameKey] at loaded
  change _ = Except.ok (_, _, Verdict.hit? _) at loaded
  rw [Verdict.hit?_of] at loaded
  exact ⟨saved, after, _, _, stored, loaded⟩

end DiskTier

end

/-- A document that is valid when it is saved, and whose validity ends within the range of
a timestamp, is found by the next load at that time, unless its copy is due as it is
stored: then the caller is told to refresh it. -/
theorem load_returns_just_saved
    (cached : Cached)
    (now : Timestamp)
    (valid : cached.tag.expiredAt now = false)
    (spans : cached.tag.Spans now) :
    (∀ (pool : Pool) keys key, ∃ next,
      (pool.saveAlong keys key cached now).load key now = .ok (next, cached.returned now)) ∧
    (∀ (tier : MemoryTier) key, (tier.saveAt key cached now).2 = true ∧ ∃ next,
      (tier.saveAt key cached now).1.loadAt key now =
        .ok (next, (cached.returned now).hit?)) ∧
    (∀ mishaps (tier : DiskTier) key number files,
      (Text.toBytes key.text).length < UInt32.size → ∀ saved after,
      tier.saveAmid mishaps key cached now number files = (saved, after, true) →
      ∃ next left, saved.loadAt key now after =
        .ok (next, left, (cached.returned now).hit?.map Cached.asNew)) ∧
    ∀ (site : DiskTier.Site) (tier : DiskTier) (files : FileTree), tier.At site →
      site.Tidy files → ∀ (invocation : Invocation) number,
      (Text.toBytes invocation.keyText).length < UInt32.size →
      ∃ saved after next left,
        tier.saveAt (CacheTier.keyFor tier invocation) cached now number files =
          (saved, after, true) ∧
        saved.loadAt (CacheTier.keyFor tier invocation) now after =
          .ok (next, left, (cached.returned now).hit?.map Cached.asNew) :=
  ⟨Pool.load_just_saved valid spans,
    fun tier key => ⟨rfl, MemoryTier.load_just_saved valid spans tier key⟩,
    fun mishaps tier key number files short _ _ stored =>
      DiskTier.load_just_saved valid spans mishaps tier key number files short stored,
    fun _ _ _ at_ tidy invocation number short =>
      DiskTier.At.load_just_saved valid spans at_ tidy invocation number short⟩

/-! ## Documents that are not returned -/

/-- There are texts of every length. -/
theorem exists_text_of_length (count : Nat) :
    ∃ text : String, (Text.toBytes text).length = count := by
  have plain : FilePath.IsPlain (String.ofList (List.replicate count '0')) := by
    intro character listed
    rw [String.toList_ofList] at listed
    rw [List.eq_of_mem_replicate listed]
    decide
  refine ⟨String.ofList (List.replicate count '0'), plain.utf8ByteSize.trans ?_⟩
  rw [String.toList_ofList, List.length_replicate]

/-- A document that changed a minute before the undefined time. -/
def undatedLeaf : Cached :=
  ⟨{ lastModified := -60, expireTime := 5 }, ⟨"<undated/>", by decide⟩⟩

/-- Answer of a pool that loads a document right after it saved it. -/
def answerAtOnce (cached : Cached) (now : Timestamp) : Except Crash Pool.Answer :=
  ((({ capacity := 2 } : Pool).save "a" cached now).load "a" now).map Prod.snd

/-- A valid document is not returned in its last second, nor at the undefined time when it
is in the window of its last change, nor when its validity spans too much, nor from a disk
when the root is no directory, nor for a key text whose length does not fit a word. -/
theorem just_saved_not_returned :
    ((Pool.leafUntil 101).tag.expiredAt 100 = false ∧
      answerAtOnce (Pool.leafUntil 101) 100 = .ok .needPrefetch) ∧
    (undatedLeaf.tag.expiredAt 0 = false ∧
      answerAtOnce undatedLeaf 0 = .ok .needPrefetch) ∧
    ((Pool.leafUntil Int64.maxValue).tag.expiredAt (-1) = false ∧
      answerAtOnce (Pool.leafUntil Int64.maxValue) (-1) = .error .timeOverflow) ∧
    (plainTier.saveAt plainKey (Pool.leafUntil 101) 100 0
      (FileTree.empty.setNode ["cache"] (.file []))).2.2 = false ∧
    ∃ key : Key, ∀ (tier : DiskTier) now files, ∃ next left,
      tier.loadAt key now files = .ok (next, left, none) := by
  refine ⟨by decide +kernel, by decide +kernel, by decide +kernel, by decide +kernel, ?_⟩
  obtain ⟨text, long⟩ := exists_text_of_length UInt32.size
  let key : Key := { text, storageId := "70/616765" }
  refine ⟨key, fun tier now files => ?_⟩
  obtain ⟨verdict, judged, -, noHit⟩ := DiskTier.judge_of_long (Nat.le_of_eq long.symm) now
    (files.read? (tier.pathFor key))
  have loaded : tier.loadAt key now files = (DiskTier.judge text now _).map _ := rfl
  rw [judged, Except.map, noHit] at loaded
  exact ⟨_, _, loaded⟩

/-- A document that is valid for another hundred seconds is returned. -/
theorem load_returns_just_saved_old :
    (oldLeaf.tag.expiredAt 100 = false ∧ oldLeaf.tag.Spans 100) ∧
    (∃ next, (({ capacity := 2 } : Pool).save "a" oldLeaf 100).load "a" 100 =
      .ok (next, .success oldLeaf)) ∧
    (∃ next, ((MemoryTier.new {}).saveAt plainKey oldLeaf 100).1.loadAt plainKey 100 =
      .ok (next, some oldLeaf)) ∧
    (∃ saved after next left,
      plainTier.saveAt plainKey oldLeaf 100 0 .empty = (saved, after, true) ∧
      saved.loadAt plainKey 100 after = .ok (next, left, some oldLeaf.asNew)) ∧
    ∃ saved after next left,
      let key := CacheTier.keyFor plainTier { method := "page" }
      plainTier.saveAt key oldLeaf 100 0 emptyCache = (saved, after, true) ∧
      saved.loadAt key 100 after = .ok (next, left, some oldLeaf.asNew) := by
  have valid : oldLeaf.tag.expiredAt 100 = false := by decide +kernel
  have spans : oldLeaf.tag.Spans 100 := fun _ => by decide +kernel
  have returned : oldLeaf.returned 100 = .success oldLeaf := by decide +kernel
  obtain ⟨pooled, remembered, kept, found⟩ := load_returns_just_saved oldLeaf 100 valid spans
  rw [returned] at pooled remembered kept found
  refine ⟨⟨valid, spans⟩, pooled _ _ _, (remembered _ _).2, ?_, ?_⟩
  · have complete : (plainTier.saveAt plainKey oldLeaf 100 0 .empty).2.2 = true := by
      decide +kernel
    obtain ⟨saved, after, stored, ran⟩ : ∃ saved after stored,
        plainTier.saveAt plainKey oldLeaf 100 0 .empty = (saved, after, stored) :=
      ⟨_, _, _, rfl⟩
    rw [ran] at complete
    obtain rfl : stored = true := complete
    obtain ⟨next, left, loaded⟩ := kept _ _ _ _ _ (by decide +kernel) _ _ ran
    exact ⟨saved, after, next, left, ran, loaded⟩
  · let site : Site := {
      root := "cache", home := ["cache"], digest := Sha256.hexDigest
      hasRoom := by decide +kernel, isDigest := Sha256.isDigest_hexDigest }
    have settled : site.Settled emptyCache := ⟨by decide +kernel, rfl⟩
    have tidy : site.Tidy emptyCache := settled.tidy fun first rest => by
      rw [emptyCache, FileTree.node?_setNode _ (by decide), if_neg (by simp [site])]
      rfl
    exact found site plainTier emptyCache ⟨rfl, rfl⟩ tidy { method := "page" } 0
      (by decide +kernel)

end FragmentCache
