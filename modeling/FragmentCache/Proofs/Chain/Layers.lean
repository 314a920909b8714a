import FragmentCache.Proofs.Tier.Memory
import FragmentCache.Proofs.Tier.Standard

/-!
# Layers of a chain

The tiers that a chain is built of, and what they recall.  A tier may drop a document at
any time, but whatever it still keeps under a key text is what was saved last under it.
For a disk tier that holds in spite of key texts with the same digest, since every record
names its key text.
-/

namespace FragmentCache

open FragmentCache.Shelf (Item)

/-- What was saved last under every key text. -/
abbrev LastSaves := String → Option Cached

/-! ## Memory tiers -/

/-- Whatever is kept under a key text was saved last under it. -/
def MemoryTier.Recalls (tier : MemoryTier) (last : LastSaves) : Prop :=
  ∀ text item, tier.ledger text = some item → last text = some item.cached

namespace MemoryTier

variable {tier next : MemoryTier} {last : LastSaves} {text : String} {now : Timestamp}

/-- A new tier in memory keeps nothing, so nothing was saved. -/
theorem recalls_new (settings : Settings) : (new settings).Recalls fun _ => none := by
  intro text item kept
  change (ShardedPool.new settings.pools settings.poolSize).ledger text = some item at kept
  rw [ShardedPool.ledger_new] at kept
  cases kept

/-- A tier that keeps less, and under one key text the same document or none, recalls the
same. -/
theorem Recalls.of_asked
    (recalls : tier.Recalls last)
    {kept : Option Item}
    {answer : Pool.Answer}
    (asked : Ledger.ask (tier.ledger text) now = .ok (kept, answer))
    (changed : next.ledger = tier.ledger.put text kept) :
    next.Recalls last := by
  intro other item found
  rw [changed, Ledger.put] at found
  split at found
  · next same =>
      subst same
      obtain ⟨-, rfl, -⟩ | ⟨_, -, -, rfl, -⟩ | ⟨before, there, -, -, rfl, -⟩ |
        ⟨before, there, -, -, rfl, -⟩ := Ledger.ask_cases asked
      · cases found
      · cases found
      · cases found
        exact recalls other before there
      · cases found
        exact recalls other _ there
  · exact recalls other item found

/-- A hit is what was saved last, and it is fresh. -/
theorem Recalls.hit
    (recalls : tier.Recalls last)
    {kept : Option Item}
    {answer : Pool.Answer}
    (asked : Ledger.ask (tier.ledger text) now = .ok (kept, answer))
    {found : Cached}
    (hit : answer.hit? = some found) :
    last text = some found ∧ found.tag.expiredAt now = false := by
  obtain ⟨-, -, rfl⟩ | ⟨_, -, -, -, rfl⟩ | ⟨_, -, -, -, -, rfl⟩ | ⟨item, there, fresh, -, -, rfl⟩ :=
    Ledger.ask_cases asked
  · cases hit
  · cases hit
  · cases hit
  · cases hit
    exact ⟨recalls text item there, fresh⟩

/-- After a save at any time, what is kept under the key text is the new document. -/
theorem Recalls.saveAt
    (recalls : tier.Recalls last)
    (key : Key)
    (cached : Cached)
    (now : Timestamp) :
    (tier.saveAt key cached now).1.Recalls
      (Function.update last key.storageId (some cached)) := by
  intro text item found
  have kept := tier.pool.save_within key.storageId cached now text item found
  rw [Ledger.save, Ledger.put] at kept
  split at kept
  · next same =>
      cases kept
      rw [same, Function.update_self]
  · next differ =>
      rw [Function.update_of_ne differ]
      exact recalls text item kept

end MemoryTier

/-! ## Disk tiers -/

namespace DiskTier

/-- A root is tidy, and its files hold what was saved last under the key texts that they
name. -/
structure Site.Recalls (site : Site) (files : FileTree) (last : LastSaves) : Prop where
  tidy : site.Tidy files
  content : ∀ text stored, files.contentAt? (site.place text) = some stored →
    ∃ owner item, stored = (Item.record item owner).encode ∧
      site.digest owner = site.digest text ∧
      (Text.toBytes owner).length < UInt32.size ∧ last owner = some item.cached

variable {site : Site} {files after : FileTree} {last : LastSaves} {text owner : String}
  {now : Timestamp}

/-- An empty directory holds nothing, so nothing was saved. -/
theorem Site.recalls_of_vacant
    (settled : site.Settled files)
    (empty : ∀ first rest, files.node? (site.home ++ first :: rest) = none) :
    site.Recalls files fun _ => none where
  tidy := settled.tidy empty
  content text stored present := by
    rw [FileTree.contentAt?, Site.place, Site.shardPlace, List.append_assoc] at present
    have nothing : files.node? (site.home ++ ([shard (site.digest text)] ++
        [leaf (site.digest text)])) = none := empty _ _
    rw [nothing] at present
    cases present

/-- What happens below a directory that lies apart leaves what is recalled. -/
theorem Site.Recalls.of_confined
    (recalls : site.Recalls files last)
    {home : FileTree.Place}
    (confined : FileTree.Confined home files after)
    (notBelow : ¬home <+: site.home)
    (notAbove : ¬site.home <+: home) :
    site.Recalls after last where
  tidy := recalls.tidy.of_confined confined notBelow notAbove
  content text stored present := by
    apply recalls.content text stored
    rw [FileTree.contentAt?, Site.place, Site.shardPlace, List.append_assoc] at present ⊢
    rw [← confined.node?_append notBelow notAbove]
    exact present

/-- A load leaves what is recalled, whatever its verdict. -/
theorem Site.Recalls.act
    (recalls : site.Recalls files last)
    (text : String)
    (verdict : Verdict) :
    site.Recalls (act files (site.path text) verdict) last := by
  have turned := recalls.tidy.act text verdict
  refine ⟨turned.tidy, ?_⟩
  intro other stored present
  rw [turned.content] at present
  split at present
  · next sameDigest =>
      cases before : files.contentAt? (site.place text) with
      | none =>
          rw [before] at present
          cases verdict <;> cases present
      | some content =>
          obtain ⟨owner, item, rfl, digest, short, saved⟩ := recalls.content text content before
          rw [before] at present
          rw [sameDigest]
          cases verdict with
          | absent | foreign | hit =>
              cases present
              exact ⟨owner, item, rfl, digest, short, saved⟩
          | corrupt | expired => cases present
          | refresh =>
              cases present
              exact ⟨owner, { item with prefetchMarked := true },
                overwrittenAt_markBytes (item.record owner), digest, short, saved⟩
  · exact recalls.content other stored present

/-- A save replaces the record of its digest by that of its key text. -/
theorem Site.Recalls.save
    (recalls : site.Recalls files last)
    (short : (Text.toBytes text).length < UInt32.size)
    {cached : Cached}
    (turned : site.Turned files text
      (Ledger.stored (some { cached, storedTime := now }) text) after) :
    site.Recalls after (Function.update last text (some cached)) where
  tidy := turned.tidy
  content other stored present := by
    rw [turned.content] at present
    split at present
    · next sameDigest =>
        cases present
        exact ⟨text, _, rfl, sameDigest.symm, short, Function.update_self ..⟩
    · next differ =>
        obtain ⟨owner, item, written, digest, ownerShort, saved⟩ :=
          recalls.content other stored present
        refine ⟨owner, item, written, digest, ownerShort, ?_⟩
        rw [Function.update_of_ne, saved]
        rintro rfl
        exact differ digest.symm

/-- A record is a hit for its own key text only, as a fresh document. -/
theorem hit_of_judge_record
    {item : Item}
    {found : Cached}
    (short : (Text.toBytes owner).length < UInt32.size)
    (hit : judge text now (some (item.record owner).encode) = .ok (.hit found)) :
    owner = text ∧ found = item.cached.asNew ∧ item.cached.tag.expiredAt now = false := by
  obtain ⟨read, decoded, key, rfl, fresh⟩ := decode_of_judge_hit hit
  have written : DiskRecord.decode (item.record owner).encode = .ok (item.record owner).asNew :=
    DiskRecord.decode_eq_ok_iff.2 ⟨rfl, rfl, short⟩
  rw [written] at decoded
  cases decoded
  exact ⟨key, rfl, fresh⟩

/-- A hit is what was saved last, as a new document, and it is fresh. -/
theorem Site.Recalls.hit
    (recalls : site.Recalls files last)
    {found : Cached}
    (hit : judge text now (files.contentAt? (site.place text)) = .ok (.hit found)) :
    ∃ saved, last text = some saved ∧ found = saved.asNew ∧ found.tag.expiredAt now = false := by
  cases present : files.contentAt? (site.place text) with
  | none =>
      rw [present] at hit
      cases hit
  | some stored =>
      obtain ⟨owner, item, rfl, -, short, saved⟩ := recalls.content text stored present
      rw [present] at hit
      obtain ⟨rfl, rfl, fresh⟩ := hit_of_judge_record short hit
      exact ⟨item.cached, saved, rfl, fresh⟩

end DiskTier

/-! ## Layers -/

/-- What a tier of a chain is made from. -/
inductive Layer where
  | memory (settings : MemoryTier.Settings)
  | disk (site : DiskTier.Site) (minimalCacheTime : Duration)

/-- A document that is found at `now` is the one saved last under the key text, up to
whether it counts as new, and it is fresh. -/
def Cached.IsCurrent (found : Cached) (last : LastSaves) (text : String) (now : Timestamp) :
    Prop :=
  ∃ saved, last text = some saved ∧ (found = saved ∨ found = saved.asNew) ∧
    found.tag.expiredAt now = false

namespace Layer

/-- The tier as it is made. -/
def tier : Layer → StandardTier
  | memory settings => .memory (.new settings)
  | disk site minimalCacheTime =>
    .disk { settings := { root := site.root, minimalCacheTime }, digest := site.digest }

/-- Neither of two directories is below the other one. -/
def Apart : Layer → Layer → Prop
  | disk first _, disk second _ => ¬first.home <+: second.home ∧ ¬second.home <+: first.home
  | _, _ => True

/-- The directory is there, with nothing below it. -/
def Vacant (files : FileTree) : Layer → Prop
  | memory _ => True
  | disk site _ =>
    site.Settled files ∧ ∀ first rest, files.node? (site.home ++ first :: rest) = none

/-- A record can name the key text, if there are records. -/
def Fits (text : String) : Layer → Prop
  | memory _ => True
  | disk _ _ => (Text.toBytes text).length < UInt32.size

/-- A tier of the layer recalls what was saved last. -/
def Recalls (files : FileTree) (last : LastSaves) : Layer → StandardTier → Prop
  | memory _, .memory tier => tier.Recalls last
  | disk site _, .disk tier => tier.At site ∧ site.Recalls files last
  | _, _ => False

/-- Nothing changes but what is below the directory. -/
def Confines : Layer → FileTree → FileTree → Prop
  | memory _, before, after => after = before
  | disk site _, before, after => FileTree.Confined site.home before after

variable {layer other : Layer} {files after : FileTree} {last : LastSaves}
  {tier next : StandardTier} {invocation : Invocation} {surroundings later : Surroundings}

theorem Apart.symm (apart : layer.Apart other) : other.Apart layer := by
  cases layer with
  | memory settings => cases other <;> trivial
  | disk site minimum =>
      cases other with
      | memory settings => trivial
      | disk otherSite otherMinimum => exact ⟨apart.2, apart.1⟩

/-- A tier that is made in a vacant place recalls that nothing was saved. -/
theorem recalls_tier (vacant : layer.Vacant files) :
    layer.Recalls files (fun _ => none) layer.tier := by
  cases layer with
  | memory settings => exact MemoryTier.recalls_new settings
  | disk site minimum => exact ⟨⟨rfl, rfl⟩, DiskTier.Site.recalls_of_vacant vacant.1 vacant.2⟩

/-- What happens in one layer leaves a tier of another one with what it recalls. -/
theorem Recalls.of_confines
    (recalls : layer.Recalls files last tier)
    (apart : layer.Apart other)
    (confines : other.Confines files after) :
    layer.Recalls after last tier := by
  cases other with
  | memory settings =>
      obtain rfl : after = files := confines
      exact recalls
  | disk otherSite otherMinimum =>
      cases layer with
      | memory settings => cases tier <;> exact recalls
      | disk site minimum =>
          cases tier with
          | memory memory => exact recalls.elim
          | disk disk => exact ⟨recalls.1, recalls.2.of_confined confines apart.2 apart.1⟩

/-- A load keeps what the tier recalls, and finds nothing else. -/
theorem Recalls.load
    (recalls : layer.Recalls surroundings.files last tier)
    {answer : Except Crash (Option Cached)}
    (loaded : CacheTier.load tier (CacheTier.keyFor tier invocation) surroundings =
      (next, later, answer)) :
    layer.Recalls later.files last next ∧ layer.Confines surroundings.files later.files ∧
      ∀ found, answer = .ok (some found) →
        found.IsCurrent last invocation.keyText surroundings.readClock.1 := by
  cases layer with
  | memory settings =>
      cases tier with
      | disk disk => exact recalls.elim
      | memory memory =>
          cases asked : memory.pool.load invocation.keyText surroundings.readClock.1 with
          | error crash =>
              rw [StandardTier.load_memory_of_crash asked] at loaded
              cases loaded
              exact ⟨recalls, rfl, nofun⟩
          | ok answered =>
              obtain ⟨pool, reply⟩ := answered
              obtain ⟨changed, memoryLoaded, rfl⟩ := StandardTier.load_memory_of_load asked
              obtain ⟨kept, keptAsked, sameLedger⟩ := ShardedPool.asked_of_load asked
              rw [memoryLoaded] at loaded
              cases loaded
              refine ⟨MemoryTier.Recalls.of_asked recalls keptAsked sameLedger, rfl, ?_⟩
              intro found hit
              obtain ⟨saved, fresh⟩ :=
                MemoryTier.Recalls.hit recalls keptAsked (Except.ok.inj hit)
              exact ⟨found, saved, .inl rfl, fresh⟩
  | disk site minimum =>
      cases tier with
      | memory memory => exact recalls.elim
      | disk disk =>
          obtain ⟨at_, recalls⟩ := recalls
          cases judged : DiskTier.judge invocation.keyText surroundings.readClock.1
              (surroundings.files.contentAt? (site.place invocation.keyText)) with
          | error crash =>
              rw [StandardTier.load_disk_of_crash at_ recalls.tidy judged] at loaded
              cases loaded
              exact ⟨⟨at_, recalls⟩, .refl _ _, nofun⟩
          | ok verdict =>
              rw [StandardTier.load_disk_of_judge at_ recalls.tidy judged] at loaded
              cases loaded
              refine ⟨⟨at_.count verdict, recalls.act invocation.keyText verdict⟩,
                (recalls.tidy.act invocation.keyText verdict).confined, ?_⟩
              intro found hit
              cases verdict with
              | hit cached =>
                  cases hit
                  obtain ⟨saved, savedLast, asNew, fresh⟩ := recalls.hit judged
                  exact ⟨saved, savedLast, .inr asNew, fresh⟩
              | absent | corrupt | foreign | expired | refresh => cases hit

/-- A save is recalled as the last one under its key text. -/
theorem Recalls.save
    (recalls : layer.Recalls surroundings.files last tier)
    (fits : layer.Fits invocation.keyText)
    {cached : Cached}
    {stored : Bool}
    (saved : CacheTier.save tier (CacheTier.keyFor tier invocation) cached surroundings =
      (next, later, stored)) :
    layer.Recalls later.files (Function.update last invocation.keyText (some cached)) next ∧
      layer.Confines surroundings.files later.files := by
  cases layer with
  | memory settings =>
      cases tier with
      | disk disk => exact recalls.elim
      | memory memory =>
          rw [StandardTier.save_memory] at saved
          cases saved
          exact ⟨MemoryTier.Recalls.saveAt recalls (Key.raw invocation) cached _, rfl⟩
  | disk site minimum =>
      cases tier with
      | memory memory => exact recalls.elim
      | disk disk =>
          obtain ⟨at_, recalls⟩ := recalls
          obtain ⟨changed, after, done, changedAt, turned⟩ := at_.saveAt recalls.tidy invocation
            cached surroundings.readClock.1 surroundings.numbersTaken
          rw [StandardTier.save_disk_of_saveAt done] at saved
          cases saved
          exact ⟨⟨changedAt, recalls.save fits turned⟩, turned.confined⟩

end Layer
end FragmentCache
