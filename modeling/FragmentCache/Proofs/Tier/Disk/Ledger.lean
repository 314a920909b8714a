import FragmentCache.Proofs.Ledger
import FragmentCache.Proofs.Record.Disk
import FragmentCache.Proofs.Tier.Disk.Tidy

/-!
# Disk tiers and their ledgers

The file of a key text holds the record of what a ledger keeps under it.  A load
judges the record as the ledger answers, and leaves the record of what the ledger
keeps then; what a disk tier replies differs from it only in that every document it
finds counts as new.
-/

namespace FragmentCache

open FragmentCache.Shelf (Item)

/-- The record of an item under a key text. -/
def Shelf.Item.record (item : Item) (text : String) : DiskRecord where
  prefetchMarked := item.prefetchMarked
  tag := item.cached.tag
  storedTime := item.storedTime
  key := text
  document := item.cached.document

/-- The bytes of what is kept under a key text. -/
def Ledger.stored (kept : Option Item) (text : String) : Option Bytes :=
  kept.map fun item => (item.record text).encode

namespace DiskRecord

/-- The header that is read from a record. -/
def header (record : DiskRecord) : Header where
  prefetchMarked := record.prefetchMarked
  tag := { record.tag with modified := true }
  storedTime := record.storedTime
  key := record.key
  bodyOffset := record.encodeHeader.length

/-- The header of a record is read back. -/
theorem decodeHeader_encode
    {record : DiskRecord}
    (short : (Text.toBytes record.key).length < UInt32.size) :
    decodeHeader record.encode = .ok record.header := by
  rw [decodeHeader, Record.map_fst_eq_ok_iff]
  refine ⟨encodeBody record.document, (readHeader_eq_ok_iff record.document).2 ?_⟩
  refine ⟨rfl, ⟨rfl, short⟩, ?_⟩
  rw [encode, List.length_append, Nat.add_sub_cancel]
  rfl

/-- The document of a record is read back. -/
theorem decodeDocument_encode (record : DiskRecord) :
    decodeDocument record.encode record.header.bodyOffset = .ok record.document :=
  decodeDocument_eq_ok_iff.2 rfl

/-- The bytes that a header is read from are its own, and others behind them. -/
theorem exists_rest_of_decodeHeader
    {stored : Bytes}
    {header : Header}
    (read : decodeHeader stored = .ok header)
    (document : Document) :
    ∃ rest, stored = (header.withDocument document).encodeHeader ++ rest ∧
      (header.withDocument document).Storable ∧
        header.bodyOffset = (header.withDocument document).encodeHeader.length := by
  obtain ⟨rest, read⟩ := Record.map_fst_eq_ok_iff.1 read
  obtain ⟨rfl, storable, offset⟩ := (readHeader_eq_ok_iff document).1 read
  refine ⟨rest, rfl, storable, ?_⟩
  rw [offset, List.length_append, Nat.add_sub_cancel]

/-- A document for the place of one that does not matter. -/
def anyDocument : Document := ⟨"<any/>", by decide⟩

/-- The length of a key that is read from a header fits a word. -/
theorem short_of_decodeHeader
    {stored : Bytes}
    {header : Header}
    (read : decodeHeader stored = .ok header) :
    (Text.toBytes header.key).length < UInt32.size := by
  obtain ⟨rest, -, storable, -⟩ := exists_rest_of_decodeHeader read anyDocument
  exact storable.shortKey

/-- What stands behind the signature, which alone holds the mark. -/
def afterSignature (record : DiskRecord) : Bytes :=
  Record.timeBytes record.tag.expireTime ++
    (Record.timeBytes record.tag.lastModified ++
      (Record.timeBytes record.storedTime ++
        (Record.wordBytes (UInt32.ofNat (Text.toBytes record.key).length) ++
          (Text.toBytes record.key ++ encodeBody record.document))))

theorem encode_eq (record : DiskRecord) :
    record.encode =
      Record.wordBytes (signature record.prefetchMarked) ++ record.afterSignature := by
  simp only [encode, encodeHeader, afterSignature, List.append_assoc]

end DiskRecord

namespace DiskTier

/-! ## Judging records -/

/-- The verdict on a record whose item is answered so. -/
def Verdict.of : Pool.Answer → Verdict
  | .notFound => .absent
  | .expired => .expired
  | .needPrefetch => .refresh
  | .success cached => .hit cached.asNew

/-- A verdict hits where the answer in memory does. -/
theorem Verdict.hit?_of (answer : Pool.Answer) :
    (Verdict.of answer).hit? = answer.hit?.map Cached.asNew := by
  cases answer <;> rfl

variable {text : String} {now : Timestamp}

/-- A stored record is judged by its own times and its own mark. -/
theorem judge_encode
    {record : DiskRecord}
    (short : (Text.toBytes record.key).length < UInt32.size)
    (now : Timestamp) :
    judge record.key now (some record.encode) =
      if record.header.tag.expiredAt now then .ok .expired
      else (dueAt record.header now).map fun
        | true => .refresh
        | false => .hit ⟨record.header.tag, record.document⟩ := by
  have sameKey : ¬record.header.key ≠ record.key := not_not.2 rfl
  simp only [judge, DiskRecord.decodeHeader_encode short, if_neg sameKey]
  split
  · rfl
  · cases dueAt record.header now with
    | error crash => rfl
    | ok due =>
        cases due with
        | true => rfl
        | false =>
            simp only [Except.map, Except.bind, bind, DiskRecord.decodeDocument_encode]
            rfl

/-- What is stored is judged as what is kept is answered. -/
theorem judge_stored
    (short : (Text.toBytes text).length < UInt32.size)
    (kept : Option Item)
    (now : Timestamp) :
    judge text now (Ledger.stored kept text) =
      (Ledger.ask kept now).map fun asked => Verdict.of asked.2 := by
  cases kept with
  | none => rfl
  | some item =>
      have judged : judge text now (Ledger.stored (some item) text) = _ :=
        @judge_encode (item.record text) short now
      have sameExpired : (item.record text).header.tag.expiredAt now = item.expiredAt now := rfl
      rw [judged, sameExpired]
      cases expired : item.expiredAt now with
      | true =>
          rw [Ledger.ask_of_expired expired, if_pos rfl]
          rfl
      | false =>
          rw [Ledger.ask_of_fresh expired, if_neg Bool.false_ne_true]
          change (item.dueAt now).map _ = ((item.dueAt now).map _).map _
          cases item.dueAt now with
          | error crash => rfl
          | ok due => cases due <;> rfl

/-- A hit is read from the whole content of a file, as a record of the key text. -/
theorem decode_of_judge_hit
    {stored : Bytes}
    {cached : Cached}
    (hit : judge text now (some stored) = .ok (.hit cached)) :
    ∃ record, DiskRecord.decode stored = .ok record ∧ record.key = text ∧
      cached = ⟨record.tag, record.document⟩ ∧ record.tag.expiredAt now = false := by
  cases headerRead : DiskRecord.decodeHeader stored with
  | error fault =>
      simp only [judge, headerRead] at hit
      cases hit
  | ok header =>
      simp only [judge, headerRead] at hit
      split at hit
      · cases hit
      · next sameKey =>
          split at hit
          · cases hit
          · next fresh =>
              cases dueRead : dueAt header now with
              | error crash =>
                  rw [dueRead] at hit
                  cases hit
              | ok due =>
                  rw [dueRead] at hit
                  cases due with
                  | true => cases hit
                  | false =>
                      cases documentRead : DiskRecord.decodeDocument stored header.bodyOffset with
                      | error fault =>
                          rw [documentRead] at hit
                          cases hit
                      | ok document =>
                          rw [documentRead] at hit
                          cases hit
                          exact ⟨header.withDocument document,
                            DiskRecord.decode_eq_ok_iff_exists.2
                              ⟨header, document, headerRead, documentRead, rfl⟩,
                            not_not.1 sameKey, rfl, Bool.eq_false_iff.2 fresh⟩

/-- No record belongs to a key text whose length does not fit a word. -/
theorem judge_of_long
    (long : UInt32.size ≤ (Text.toBytes text).length)
    (now : Timestamp)
    (content : Option Bytes) :
    ∃ verdict, judge text now content = .ok verdict ∧ verdict ≠ .refresh ∧ verdict.hit? = none := by
  cases content with
  | none => exact ⟨.absent, rfl, nofun, rfl⟩
  | some stored =>
      cases read : DiskRecord.decodeHeader stored with
      | error fault => exact ⟨.corrupt, by simp only [judge, read]; rfl, nofun, rfl⟩
      | ok header =>
          have foreign : header.key ≠ text := by
            rintro rfl
            exact absurd (DiskRecord.short_of_decodeHeader read) (Nat.not_lt.2 long)
          exact ⟨.foreign, by simp only [judge, read, if_pos foreign]; rfl, nofun, rfl⟩

/-- Marking a record in place makes it the record of the marked item. -/
theorem overwrittenAt_markBytes (record : DiskRecord) :
    FileTree.overwrittenAt 0 markBytes record.encode =
      { record with prefetchMarked := true }.encode := by
  have width : ∀ word, (Record.wordBytes word).length = 4 := DiskRecord.length_wordBytes
  rw [FileTree.overwrittenAt, record.encode_eq, DiskRecord.encode_eq, markBytes, width,
    Nat.zero_add, List.drop_left' (width _), Nat.zero_sub]
  rfl

/-- A load leaves the bytes of what is kept after it. -/
theorem leaves_stored
    {kept next : Option Item}
    {answer : Pool.Answer}
    (asked : Ledger.ask kept now = .ok (next, answer)) :
    (Verdict.of answer).leaves (Ledger.stored kept text) = Ledger.stored next text := by
  obtain ⟨rfl, rfl, rfl⟩ | ⟨item, rfl, -, rfl, rfl⟩ | ⟨item, rfl, -, -, rfl, rfl⟩ |
    ⟨item, rfl, -, -, rfl, rfl⟩ := Ledger.ask_cases asked
  · rfl
  · rfl
  · exact congrArg some (overwrittenAt_markBytes (item.record text))
  · rfl

/-! ## Tiers at a site -/

/-- A tier that keeps its files at a site. -/
structure At (tier : DiskTier) (site : Site) : Prop where
  root : tier.settings.root = site.root
  digest : tier.digest = site.digest

variable {tier : DiskTier} {site : Site} {files after : FileTree} {invocation : Invocation}

/-- A disk tier at a site keeps a key at the site's path. -/
theorem At.pathFor (at_ : tier.At site) (invocation : Invocation) :
    tier.pathFor (CacheTier.keyFor tier invocation) = site.path invocation.keyText := by
  change FilePath.join tier.settings.root (Key.splitDigest (tier.digest invocation.keyText)) = _
  rw [at_.root, at_.digest]
  rfl

theorem At.count (at_ : tier.At site) (verdict : Verdict) : (tier.count verdict).At site := by
  cases verdict <;> exact ⟨at_.root, at_.digest⟩

/-- A load judges what is at the place of its key text. -/
theorem At.loadAt
    (at_ : tier.At site)
    (tidy : site.Tidy files)
    (invocation : Invocation)
    (now : Timestamp) :
    tier.loadAt (CacheTier.keyFor tier invocation) now files =
      (judge invocation.keyText now (files.contentAt? (site.place invocation.keyText))).map
        fun verdict => (tier.count verdict,
          act files (site.path invocation.keyText) verdict, verdict.hit?) := by
  rw [DiskTier.loadAt, at_.pathFor, tidy.read?_path]
  change Except.bind (judge invocation.keyText now
    (files.contentAt? (site.place invocation.keyText))) _ = _
  cases judge invocation.keyText now (files.contentAt? (site.place invocation.keyText)) <;> rfl

/-- A save stores its record. -/
theorem At.saveAt
    (at_ : tier.At site)
    (tidy : site.Tidy files)
    (invocation : Invocation)
    (cached : Cached)
    (now : Timestamp)
    (number : Nat) :
    ∃ saved after,
      tier.saveAt (CacheTier.keyFor tier invocation) cached now number files =
        (saved, after, true) ∧ saved.At site ∧
      site.Turned files invocation.keyText
        (Ledger.stored (some { cached, storedTime := now }) invocation.keyText) after := by
  obtain ⟨after, ran, turned⟩ := tidy.save invocation.keyText number
    (recordBytes (CacheTier.keyFor tier invocation) cached now)
  refine ⟨{ tier with writes := tier.writes + 1 }, after, ?_, ⟨at_.root, at_.digest⟩, turned⟩
  rw [DiskTier.saveAt, saveAmid, at_.pathFor, ran]
  rfl

/-- A removal acts on the file of its key text. -/
theorem At.remove
    (at_ : tier.At site)
    (files : FileTree)
    (invocation : Invocation) :
    (tier.remove (CacheTier.keyFor tier invocation) files).1 =
      (files.removeFile? (site.path invocation.keyText)).getD files := by
  unfold DiskTier.remove
  rw [at_.pathFor]
  cases removed : files.removeFile? (site.path invocation.keyText) with
  | none => exact rfl
  | some after => exact rfl

/-- A tier is opened again where it is. -/
theorem At.create
    (at_ : tier.At site)
    (tidy : site.Tidy files) :
    create tier.settings files = (files, .ok { settings := tier.settings }) := by
  have made : files.makeDirectories site.root = (files, true) := by
    by_cases empty : site.root = ""
    · rw [empty]
      rfl
    · exact FileTree.makeDirectories_of_directory (tidy.toSettled.place_root empty) tidy.directory
  rw [DiskTier.create, at_.root, made]

/-! ## Ledgers of files -/

/-- The files of the used key texts hold what a ledger keeps. -/
structure Holds (site : Site) (used : String → Prop) (files : FileTree) (ledger : Ledger) :
    Prop where
  tidy : site.Tidy files
  content : ∀ text, used text →
    files.contentAt? (site.place text) = Ledger.stored (ledger text) text

/-- The used key texts have files of their own, and they fit a record. -/
structure Separate (site : Site) (used : String → Prop) : Prop where
  short : ∀ text, used text → (Text.toBytes text).length < UInt32.size
  apart : ∀ first second, used first → used second →
    site.digest first = site.digest second → first = second

variable {used : String → Prop} {ledger : Ledger}

/-- A root with nothing below it holds the empty ledger. -/
theorem holds_empty
    (settled : site.Settled files)
    (empty : ∀ first rest, files.node? (site.home ++ first :: rest) = none)
    (used : String → Prop) :
    Holds site used files Ledger.empty where
  tidy := settled.tidy empty
  content text _ := by
    rw [FileTree.contentAt?, Site.place, Site.shardPlace, List.append_assoc]
    exact congrArg (·.bind FileTree.Node.content?) (empty _ _)

/-- When the content for a used key text becomes what is kept of it, the files hold the
ledger where that is kept. -/
theorem Holds.turned
    (holds : Holds site used files ledger)
    (separate : Separate site used)
    (isUsed : used text)
    {kept : Option Item}
    (turned : site.Turned files text (Ledger.stored kept text) after) :
    Holds site used after (ledger.put text kept) where
  tidy := turned.tidy
  content other otherUsed := by
    rw [turned.content, Ledger.put]
    by_cases same : other = text
    · rw [if_pos same, if_pos (by rw [same]), same]
    · rw [if_neg same, if_neg fun sameDigest => same (separate.apart _ _ otherUsed isUsed sameDigest)]
      exact holds.content other otherUsed

/-- The tier, the files and the reply after a load. -/
def afterLoad (tier : DiskTier) (files : FileTree) :
    Except Crash (DiskTier × FileTree × Option Cached) → DiskTier × FileTree × Ledger.Reply
  | .ok (tier, files, hit) => (tier, files, .found hit)
  | .error crash => (tier, files, .crashed crash)

/-- The tier, the files and the reply after the tier was opened again. -/
def afterOpening (tier : DiskTier) :
    FileTree × Except Config.Fault DiskTier → DiskTier × FileTree × Ledger.Reply
  | (files, .ok opened) => ({ opened with digest := tier.digest }, files, .reopened true)
  | (files, .error _) => (tier, files, .reopened false)

/-- Reply to an operation. -/
def answer (tier : DiskTier) (files : FileTree) :
    Ledger.Operation → DiskTier × FileTree × Ledger.Reply
  | .load invocation now =>
    tier.afterLoad files (tier.loadAt (CacheTier.keyFor tier invocation) now files)
  | .save invocation cached now number =>
    (tier.saveAt (CacheTier.keyFor tier invocation) cached now number files).map id
      (Prod.map id .saved)
  | .reopen => tier.afterOpening (create tier.settings files)

/-- Carry out operations one after the other. -/
def run (tier : DiskTier) (files : FileTree) : List Ledger.Operation → List Ledger.Reply
  | [] => []
  | operation :: rest =>
    let answered := tier.answer files operation
    answered.2.2 :: run answered.1 answered.2.1 rest

theorem run_cons
    (tier : DiskTier)
    (files : FileTree)
    (operation : Ledger.Operation)
    (rest : List Ledger.Operation) :
    tier.run files (operation :: rest) =
      (tier.answer files operation).2.2 ::
        (tier.answer files operation).1.run (tier.answer files operation).2.1 rest :=
  rfl

/-- A tier replies as the ledger that its files hold, and its files hold the next one. -/
theorem Holds.answer
    (holds : Holds site used files ledger)
    (separate : Separate site used)
    (at_ : tier.At site)
    {operation : Ledger.Operation}
    (isUsed : ∀ text, operation.keyText? = some text → used text) :
    ∃ next after, tier.answer files operation =
        (next, after, (ledger.answer operation).2.asNew) ∧ next.At site ∧
      Holds site used after (ledger.answer operation).1 := by
  cases operation with
  | load invocation now =>
      have textUsed : used invocation.keyText := isUsed invocation.keyText rfl
      have loaded := at_.loadAt holds.tidy invocation now
      rw [holds.content _ textUsed, judge_stored (separate.short _ textUsed)] at loaded
      rw [DiskTier.answer, loaded, Ledger.answer, Ledger.load]
      cases asked : Ledger.ask (ledger invocation.keyText) now with
      | error crash => exact ⟨tier, files, rfl, at_, holds⟩
      | ok kept =>
          obtain ⟨next, reply⟩ := kept
          refine ⟨tier.count (Verdict.of reply),
            act files (site.path invocation.keyText) (Verdict.of reply), ?_,
            at_.count (Verdict.of reply), ?_⟩
          · simp only [Except.map, Verdict.hit?_of, Ledger.Reply.asNew, Prod.map, id, afterLoad]
          · apply holds.turned separate textUsed
            rw [← leaves_stored asked, ← holds.content _ textUsed]
            exact holds.tidy.act invocation.keyText (Verdict.of reply)
  | save invocation cached now number =>
      obtain ⟨saved, after, stored, savedAt, turned⟩ :=
        at_.saveAt holds.tidy invocation cached now number
      refine ⟨saved, after, ?_, savedAt, holds.turned separate (isUsed invocation.keyText rfl) turned⟩
      rw [DiskTier.answer, stored]
      rfl
  | reopen =>
      refine ⟨{ settings := tier.settings, digest := tier.digest }, files, ?_,
        ⟨at_.root, at_.digest⟩, holds⟩
      rw [DiskTier.answer, at_.create holds.tidy]
      rfl

/-- A tier replies to any operations as the ledger that its files hold, but finds every
document as a new one. -/
theorem Holds.run
    (holds : Holds site used files ledger)
    (separate : Separate site used)
    (at_ : tier.At site)
    {operations : List Ledger.Operation}
    (isUsed : ∀ operation ∈ operations, ∀ text, operation.keyText? = some text → used text) :
    tier.run files operations = (ledger.run operations).map Ledger.Reply.asNew := by
  induction operations generalizing tier files ledger with
  | nil => rfl
  | cons operation rest inductionHypothesis =>
      obtain ⟨firstUsed, restUsed⟩ := List.forall_mem_cons.1 isUsed
      obtain ⟨next, after, answered, nextAt, holdsNext⟩ := holds.answer separate at_ firstUsed
      rw [run_cons, answered, Ledger.run_cons, List.map_cons]
      dsimp only
      rw [inductionHypothesis holdsNext nextAt restUsed]

end DiskTier
end FragmentCache
