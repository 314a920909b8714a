import FragmentCache.Proofs.Tier.Disk.Ledger

/-!
# Loads of a file of any content

Whatever bytes a file holds, a load of a key reads them in one of six ways, which
tells what it answers, what it counts and what becomes of the file.  A second load at
the same time finds nothing more to do, unless the first one marked a record whose
document cannot be read.
-/

namespace FragmentCache

/-! ## Records marked in place -/

namespace DiskRecord

/-- Some bytes with the signature of a marked record. -/
def marked (stored : Bytes) : Bytes := DiskTier.markBytes ++ stored.drop 4

variable {stored : Bytes} {header : Header}

/-- Writing the mark over the front of a file marks its record. -/
theorem overwrittenAt_eq_marked (stored : Bytes) :
    FileTree.overwrittenAt 0 DiskTier.markBytes stored = marked stored := by
  have width : DiskTier.markBytes.length = 4 := length_wordBytes _
  rw [FileTree.overwrittenAt, width, Nat.zero_sub]
  rfl

/-- The bytes of a header behind its signature. -/
theorem exists_encodeHeader_eq (record : DiskRecord) :
    ∃ behind, ∀ prefetchMarked, { record with prefetchMarked }.encodeHeader =
      Record.wordBytes (signature prefetchMarked) ++ behind := by
  refine ⟨Record.timeBytes record.tag.expireTime ++
    (Record.timeBytes record.tag.lastModified ++
      (Record.timeBytes record.storedTime ++
        (Record.wordBytes (UInt32.ofNat (Text.toBytes record.key).length) ++
          Text.toBytes record.key))), fun prefetchMarked => ?_⟩
  simp only [encodeHeader, List.append_assoc]

/-- Marking in place changes the mark of the header and nothing behind it. -/
theorem exists_marked_of_decodeHeader (read : decodeHeader stored = .ok header) :
    ∃ front behind, stored = front ++ behind ∧ front.length = header.bodyOffset ∧
      4 ≤ front.length ∧ marked stored = marked front ++ behind ∧
        (marked front).length = front.length ∧
          decodeHeader (marked stored) = .ok { header with prefetchMarked := true } := by
  obtain ⟨rest, rfl, storable, offset⟩ := exists_rest_of_decodeHeader read anyDocument
  obtain ⟨behind, written⟩ := exists_encodeHeader_eq (header.withDocument anyDocument)
  have front : (header.withDocument anyDocument).encodeHeader =
      Record.wordBytes (signature header.prefetchMarked) ++ behind :=
    written header.prefetchMarked
  have width (word : UInt32) : (Record.wordBytes word).length = 4 := length_wordBytes word
  have markedFront : marked (header.withDocument anyDocument).encodeHeader =
      ({ header with prefetchMarked := true }.withDocument anyDocument).encodeHeader := by
    rw [marked, front, List.drop_left' (width _)]
    exact (written true).symm
  have long : 4 ≤ (header.withDocument anyDocument).encodeHeader.length := by
    rw [front, List.length_append, width]
    omega
  have sameLength : (marked (header.withDocument anyDocument).encodeHeader).length =
      (header.withDocument anyDocument).encodeHeader.length := by
    rw [marked, List.length_append, List.length_drop]
    change 4 + _ = _
    omega
  have split : marked ((header.withDocument anyDocument).encodeHeader ++ rest) =
      marked (header.withDocument anyDocument).encodeHeader ++ rest := by
    rw [marked, marked, List.drop_append_of_le_length long, List.append_assoc]
  refine ⟨_, rest, rfl, offset.symm, long, split, sameLength, ?_⟩
  rw [split, decodeHeader, Record.map_fst_eq_ok_iff]
  refine ⟨rest, (readHeader_eq_ok_iff anyDocument).2 ⟨?_, ⟨storable.modified,
    storable.shortKey⟩, ?_⟩⟩
  · rw [markedFront]
  · rw [List.length_append, Nat.add_sub_cancel, sameLength]
    exact offset

/-- A mark changes the header by the mark alone. -/
theorem decodeHeader_marked (read : decodeHeader stored = .ok header) :
    decodeHeader (marked stored) = .ok { header with prefetchMarked := true } := by
  obtain ⟨-, -, -, -, -, -, -, markedRead⟩ := exists_marked_of_decodeHeader read
  exact markedRead

/-- A mark does not touch the document. -/
theorem decodeDocument_marked (read : decodeHeader stored = .ok header) :
    decodeDocument (marked stored) header.bodyOffset = decodeDocument stored header.bodyOffset := by
  obtain ⟨front, behind, rfl, offset, -, split, sameLength, -⟩ :=
    exists_marked_of_decodeHeader read
  rw [split, decodeDocument, decodeDocument, List.length_append, List.length_append, sameLength,
    List.drop_left' offset, List.drop_left' (sameLength.trans offset)]

/-- Marked bytes hold the same record, with its mark. -/
theorem decode_marked
    {record : DiskRecord}
    (decoded : decode stored = .ok record) :
    decode (marked stored) = .ok { record with prefetchMarked := true } := by
  obtain ⟨header, document, read, documentRead, rfl⟩ := decode_eq_ok_iff_exists.1 decoded
  exact decode_eq_ok_iff_exists.2 ⟨_, document, decodeHeader_marked read,
    (decodeDocument_marked read).trans documentRead, rfl⟩

theorem four_le_of_decodeHeader (read : decodeHeader stored = .ok header) :
    4 ≤ stored.length := by
  obtain ⟨front, behind, rfl, -, long, -⟩ := exists_marked_of_decodeHeader read
  rw [List.length_append]
  omega

end DiskRecord

namespace DiskTier

open FileTree (Place)

/-! ## What a load can read -/

/-- No header can be read. -/
def Unreadable (stored : Bytes) : Prop :=
  ∀ header, DiskRecord.decodeHeader stored ≠ .ok header

/-- The header names another key text. -/
def Foreign (text : String) (stored : Bytes) : Prop :=
  ∃ header, DiskRecord.decodeHeader stored = .ok header ∧ header.key ≠ text

/-- The header names the key text, and its tag has expired. -/
def Outdated (text : String) (now : Timestamp) (stored : Bytes) : Prop :=
  ∃ header, DiskRecord.decodeHeader stored = .ok header ∧ header.key = text ∧
    header.tag.expiredAt now = true

/-- The header names the key text and is valid, and the caller has to be told to
refresh the document. -/
def Signals (text : String) (now : Timestamp) (stored : Bytes) : Prop :=
  ∃ header, DiskRecord.decodeHeader stored = .ok header ∧ header.key = text ∧
    header.tag.expiredAt now = false ∧ dueAt header now = .ok true

/-- The header names the key text and is valid, nobody has to be told anything, and no
document can be read. -/
def Damaged (text : String) (now : Timestamp) (stored : Bytes) : Prop :=
  ∃ header, DiskRecord.decodeHeader stored = .ok header ∧ header.key = text ∧
    header.tag.expiredAt now = false ∧ dueAt header now = .ok false ∧
      ∀ document, DiskRecord.decodeDocument stored header.bodyOffset ≠ .ok document

/-- When a load has to compute the seconds that are left, they fit a timestamp. -/
def Measurable (text : String) (now : Timestamp) (stored : Bytes) : Prop :=
  ∀ header, DiskRecord.decodeHeader stored = .ok header → header.key = text →
    header.tag.expiredAt now = false → ∃ due, dueAt header now = .ok due

/-- A record that is not due has its mark, or lies outside the window of its tag. -/
theorem dueAt_eq_false_iff {header : DiskRecord.Header} {now : Timestamp} :
    dueAt header now = .ok false ↔ header.prefetchMarked = true ∨
      header.tag.prefetchDueAt header.storedTime now = .ok false := by
  rw [dueAt]
  cases header.prefetchMarked <;> simp

/-- A way to read the bytes of a file, with the verdict on it. -/
inductive Reading (text : String) (now : Timestamp) (stored : Bytes) : Verdict → Prop where
  | unreadable
      (unreadable : Unreadable stored) :
      Reading text now stored .corrupt
  | foreign
      {header : DiskRecord.Header}
      (read : DiskRecord.decodeHeader stored = .ok header)
      (differ : header.key ≠ text) :
      Reading text now stored .foreign
  | outdated
      {header : DiskRecord.Header}
      (read : DiskRecord.decodeHeader stored = .ok header)
      (same : header.key = text)
      (expired : header.tag.expiredAt now = true) :
      Reading text now stored .expired
  | due
      {header : DiskRecord.Header}
      (read : DiskRecord.decodeHeader stored = .ok header)
      (same : header.key = text)
      (valid : header.tag.expiredAt now = false)
      (due : dueAt header now = .ok true) :
      Reading text now stored .refresh
  | damaged
      {header : DiskRecord.Header}
      (read : DiskRecord.decodeHeader stored = .ok header)
      (same : header.key = text)
      (valid : header.tag.expiredAt now = false)
      (undue : dueAt header now = .ok false)
      (broken : ∀ document, DiskRecord.decodeDocument stored header.bodyOffset ≠ .ok document) :
      Reading text now stored .corrupt
  | served
      {header : DiskRecord.Header}
      {document : Document}
      (read : DiskRecord.decodeHeader stored = .ok header)
      (same : header.key = text)
      (valid : header.tag.expiredAt now = false)
      (undue : dueAt header now = .ok false)
      (whole : DiskRecord.decodeDocument stored header.bodyOffset = .ok document) :
      Reading text now stored (.hit ⟨header.tag, document⟩)

section

variable
  {text : String}
  {now : Timestamp}
  {stored : Bytes}
  {verdict other : Verdict}

/-- Bytes that can be measured have a reading. -/
theorem exists_reading (measurable : Measurable text now stored) :
    ∃ verdict, Reading text now stored verdict := by
  cases read : DiskRecord.decodeHeader stored with
  | error fault => exact ⟨_, .unreadable fun header => by rw [read]; exact nofun⟩
  | ok header =>
      by_cases same : header.key = text
      · cases valid : header.tag.expiredAt now with
        | true => exact ⟨_, .outdated read same valid⟩
        | false =>
            obtain ⟨due, dueRead⟩ := measurable header read same valid
            cases due with
            | true => exact ⟨_, .due read same valid dueRead⟩
            | false =>
                cases documentRead : DiskRecord.decodeDocument stored header.bodyOffset with
                | ok document => exact ⟨_, .served read same valid dueRead documentRead⟩
                | error fault =>
                    exact ⟨_, .damaged read same valid dueRead fun document => by
                      rw [documentRead]
                      exact nofun⟩
      · exact ⟨_, .foreign read same⟩

/-- A reading is what the tier judges. -/
theorem Reading.judge (reading : Reading text now stored verdict) :
    judge text now (some stored) = .ok verdict := by
  cases reading with
  | unreadable unreadable =>
      cases read : DiskRecord.decodeHeader stored with
      | error fault => simp only [DiskTier.judge, read]; rfl
      | ok header => exact absurd read (unreadable header)
  | foreign read differ => simp only [DiskTier.judge, read, if_pos differ]; rfl
  | outdated read same expired =>
      simp only [DiskTier.judge, read, same, ne_eq, not_true_eq_false, if_false, expired, if_true]
      rfl
  | due read same valid due =>
      simp only [DiskTier.judge, read, same, ne_eq, not_true_eq_false, if_false, valid,
        Bool.false_eq_true, due]
      rfl
  | damaged read same valid undue broken =>
      simp only [DiskTier.judge, read, same, ne_eq, not_true_eq_false, if_false, valid,
        Bool.false_eq_true, undue]
      cases documentRead : DiskRecord.decodeDocument stored _ with
      | error fault => rfl
      | ok document => exact absurd documentRead (broken document)
  | served read same valid undue whole =>
      simp only [DiskTier.judge, read, same, ne_eq, not_true_eq_false, if_false, valid,
        Bool.false_eq_true, undue, whole]
      rfl

/-- What can be judged needs no seconds that do not fit. -/
theorem measurable_of_judge (judged : DiskTier.judge text now (some stored) = .ok verdict) :
    Measurable text now stored := by
  intro header read same valid
  simp only [DiskTier.judge, read, same, ne_eq, not_true_eq_false, if_false, valid,
    Bool.false_eq_true] at judged
  cases dueRead : dueAt header now with
  | ok due => exact ⟨due, rfl⟩
  | error crash =>
      rw [dueRead] at judged
      cases judged

/-- No bytes have two readings. -/
theorem Reading.unique
    (first : Reading text now stored verdict)
    (second : Reading text now stored other) :
    verdict = other :=
  Except.ok.inj (first.judge.symm.trans second.judge)

/-! ## The verdict tells how the bytes were read -/

theorem Reading.foreign_iff (reading : Reading text now stored verdict) :
    Foreign text stored ↔ verdict = .foreign := by
  constructor
  · rintro ⟨header, read, differ⟩
    exact reading.unique (.foreign read differ)
  · rintro rfl
    cases reading with
    | foreign read differ => exact ⟨_, read, differ⟩

theorem Reading.outdated_iff (reading : Reading text now stored verdict) :
    Outdated text now stored ↔ verdict = .expired := by
  constructor
  · rintro ⟨header, read, same, expired⟩
    exact reading.unique (.outdated read same expired)
  · rintro rfl
    cases reading with
    | outdated read same expired => exact ⟨_, read, same, expired⟩

theorem Reading.signals_iff (reading : Reading text now stored verdict) :
    Signals text now stored ↔ verdict = .refresh := by
  constructor
  · rintro ⟨header, read, same, valid, due⟩
    exact reading.unique (.due read same valid due)
  · rintro rfl
    cases reading with
    | due read same valid due => exact ⟨_, read, same, valid, due⟩

/-- Unreadable and damaged bytes are those read as corrupt. -/
theorem Reading.corrupt_iff (reading : Reading text now stored verdict) :
    Unreadable stored ∨ Damaged text now stored ↔ verdict = .corrupt := by
  constructor
  · rintro (unreadable | ⟨header, read, same, valid, undue, broken⟩)
    · exact reading.unique (.unreadable unreadable)
    · exact reading.unique (.damaged read same valid undue broken)
  · rintro rfl
    cases reading with
    | unreadable unreadable => exact Or.inl unreadable
    | damaged read same valid undue broken => exact Or.inr ⟨_, read, same, valid, undue, broken⟩

/-- A hit is a whole record of the key text that is valid and not due. -/
theorem Reading.hit_iff
    (reading : Reading text now stored verdict)
    {cached : Cached} :
    verdict.hit? = some cached ↔
      ∃ record, DiskRecord.decode stored = .ok record ∧ record.key = text ∧
        record.tag.expiredAt now = false ∧
          (record.prefetchMarked = true ∨
            record.tag.prefetchDueAt record.storedTime now = .ok false) ∧
            cached = ⟨record.tag, record.document⟩ := by
  constructor
  · intro hit
    cases reading with
    | served read same valid undue whole =>
        cases hit
        exact ⟨_, DiskRecord.decode_eq_ok_iff_exists.2 ⟨_, _, read, whole, rfl⟩, same, valid,
          dueAt_eq_false_iff.1 undue, rfl⟩
    | unreadable | foreign | outdated | due | damaged => cases hit
  · rintro ⟨record, decoded, same, valid, undue, rfl⟩
    obtain ⟨header, document, read, whole, rfl⟩ := DiskRecord.decode_eq_ok_iff_exists.1 decoded
    rw [reading.unique (.served read same valid (dueAt_eq_false_iff.2 undue) whole)]
    rfl

/-! ## A second load -/

/-- After a load that marked nothing, or a whole record, another load at the same time
leaves the file as it is; it removes a marked one whose document cannot be read. -/
theorem Reading.judge_again (reading : Reading text now stored verdict) :
    ∃ again, DiskTier.judge text now (verdict.leaves (some stored)) = .ok again ∧
      ((Signals text now stored → ∃ record, DiskRecord.decode stored = .ok record) →
        ∀ files path, act files path again = files) ∧
      (Signals text now stored → (∀ record, DiskRecord.decode stored ≠ .ok record) →
        again = .corrupt) := by
  have silent (differ : verdict ≠ .refresh) : ¬Signals text now stored :=
    mt reading.signals_iff.1 differ
  cases reading with
  | unreadable | damaged =>
      exact ⟨.absent, rfl, fun _ _ _ => rfl, fun signals => absurd signals (silent nofun)⟩
  | outdated =>
      exact ⟨.absent, rfl, fun _ _ _ => rfl, fun signals => absurd signals (silent nofun)⟩
  | foreign read differ =>
      exact ⟨.foreign, (Reading.foreign read differ).judge, fun _ _ _ => rfl,
        fun signals => absurd signals (silent nofun)⟩
  | served read same valid undue whole =>
      exact ⟨_, (Reading.served read same valid undue whole).judge,
        fun _ _ _ => rfl, fun signals => absurd signals (silent nofun)⟩
  | @due header read same valid due =>
      have left : Verdict.refresh.leaves (some stored) = some (DiskRecord.marked stored) :=
        congrArg some (DiskRecord.overwrittenAt_eq_marked stored)
      have markedRead := DiskRecord.decodeHeader_marked read
      have sameDocument := DiskRecord.decodeDocument_marked read
      rw [left]
      cases whole : DiskRecord.decodeDocument stored header.bodyOffset with
      | ok document =>
          refine ⟨_, (Reading.served markedRead same valid rfl (sameDocument.trans whole)).judge,
            fun _ _ _ => rfl, fun _ undecoded => ?_⟩
          exact absurd (DiskRecord.decode_eq_ok_iff_exists.2 ⟨_, _, read, whole, rfl⟩)
            (undecoded _)
      | error fault =>
          have broken : ∀ document, DiskRecord.decodeDocument stored header.bodyOffset ≠
              .ok document := fun document => by rw [whole]; exact nofun
          have markedBroken : ∀ document,
              DiskRecord.decodeDocument (DiskRecord.marked stored) header.bodyOffset ≠
                .ok document := fun document => by rw [sameDocument]; exact broken document
          refine ⟨_, (Reading.damaged markedRead same valid rfl markedBroken).judge,
            fun decodes => ?_, fun _ _ => rfl⟩
          obtain ⟨record, decoded⟩ := decodes ⟨header, read, same, valid, due⟩
          obtain ⟨other, document, otherRead, documentRead, -⟩ :=
            DiskRecord.decode_eq_ok_iff_exists.1 decoded
          rw [read] at otherRead
          cases otherRead
          exact absurd documentRead (broken document)

end

/-! ## Acting on a file -/

section

variable
  {files : FileTree}
  {path : String}
  {place : Place}
  {stored : Bytes}

/-- What a verdict does to a file leaves all other places. -/
theorem act_of_found
    (found : files.fileEntry? path = some place)
    (present : files.contentAt? place = some stored)
    (verdict : Verdict) :
    FileTree.fileEntry? (act files path verdict) path = some place ∧
      (act files path verdict).contentAt? place = verdict.leaves (some stored) ∧
        ∀ other, other ≠ place →
          (act files path verdict).contentAt? other = files.contentAt? other := by
  have inside := FileTree.ne_root_of_fileEntry found
  have kept : files.fileEntry? path = some place ∧
      files.contentAt? place = some stored ∧
        ∀ other, other ≠ place → files.contentAt? other = files.contentAt? other :=
    ⟨found, present, fun _ _ => rfl⟩
  have removed : files.removeFile? path = some (files.eraseNode place) :=
    FileTree.removeFile?_eq_some_iff.2 ⟨place, stored, found, present, rfl⟩
  have erased : FileTree.fileEntry? (files.eraseNode place) path = some place ∧
      (files.eraseNode place).contentAt? place = none ∧
        ∀ other, other ≠ place →
          (files.eraseNode place).contentAt? other = files.contentAt? other := by
    refine ⟨(FileTree.KeepsDirectories.removeFile? removed).fileEntry found, ?_, fun other apart => ?_⟩
    · rw [FileTree.contentAt?_eraseNode files inside, if_pos rfl]
    · rw [FileTree.contentAt?_eraseNode files inside, if_neg apart]
  cases verdict with
  | absent | foreign | hit => exact kept
  | corrupt | expired =>
      rw [act, removed]
      exact erased
  | refresh =>
      have written : files.overwrite? path 0 markBytes = some _ :=
        FileTree.overwrite?_eq_some_iff.2 ⟨place, stored, found, present, rfl⟩
      rw [act, written, Option.getD_some]
      refine ⟨(FileTree.KeepsDirectories.overwrite? written).fileEntry found, ?_,
        fun other apart => ?_⟩
      · rw [FileTree.contentAt?_setNode files inside, if_pos rfl]
        rfl
      · rw [FileTree.contentAt?_setNode files inside, if_neg apart]

/-- A load answers and acts as it judges the bytes that it finds. -/
theorem loadAt_of_judge
    (tier : DiskTier)
    {key : Key}
    {now : Timestamp}
    {content : Option Bytes}
    {verdict : Verdict}
    (found : files.fileEntry? (tier.pathFor key) = some place)
    (present : files.contentAt? place = content)
    (judged : judge key.text now content = .ok verdict) :
    tier.loadAt key now files =
      .ok (tier.count verdict, act files (tier.pathFor key) verdict, verdict.hit?) := by
  rw [loadAt, FileTree.read?_eq_contentAt? (FileTree.place_of_fileEntry found), present, judged]
  rfl

theorem pathFor_count (tier : DiskTier) (verdict : Verdict) (key : Key) :
    (tier.count verdict).pathFor key = tier.pathFor key := by
  cases verdict <;> rfl

end

/-! ## Loads -/

/-- What a load of a key brings about when its file holds some bytes. -/
structure Loaded (tier : DiskTier) (key : Key) (now : Timestamp) (files : FileTree)
    (place : Place) (stored : Bytes) (next : DiskTier) (after : FileTree)
    (hit : Option Cached) : Prop where
  /-- The answer is the record of the key that the bytes hold, valid and not due. -/
  hit : ∀ cached, hit = some cached ↔
    ∃ record, DiskRecord.decode stored = .ok record ∧ record.key = key.text ∧
      record.tag.expiredAt now = false ∧
        (record.prefetchMarked = true ∨
          record.tag.prefetchDueAt record.storedTime now = .ok false) ∧
          cached = ⟨record.tag, record.document⟩
  /-- What cannot be read, or belongs to the key and has expired or lost its document
  without a call to refresh it, goes. -/
  gone : after.contentAt? place = none ↔
    Unreadable stored ∨ Outdated key.text now stored ∨ Damaged key.text now stored
  /-- A call to refresh changes the first four bytes, which holds the mark, and no other. -/
  marked : Signals key.text now stored →
    4 ≤ stored.length ∧ after.contentAt? place = some (markBytes ++ stored.drop 4) ∧
      ∀ record, DiskRecord.decode stored = .ok record →
        DiskRecord.decode (markBytes ++ stored.drop 4) =
          .ok { record with prefetchMarked := true }
  /-- Nothing else changes the bytes. -/
  changed : ∀ content, after.contentAt? place = some content → content ≠ stored →
    Signals key.text now stored
  foreign : Foreign key.text stored → after.contentAt? place = some stored
  others : ∀ other, other ≠ place → after.contentAt? other = files.contentAt? other
  corruptCounted : Unreadable stored ∨ Damaged key.text now stored →
    next = { tier with corrupt := tier.corrupt + 1 }
  foreignCounted : Foreign key.text stored →
    next = { tier with keyClashes := tier.keyClashes + 1 }
  expiredCounted : Outdated key.text now stored →
    next = { tier with expired := tier.expired + 1 }
  uncounted : ¬(Unreadable stored ∨ Damaged key.text now stored) → ¬Foreign key.text stored →
    ¬Outdated key.text now stored → next = tier
  /-- Another load at the same time leaves the file as it is, unless the first one told
  the caller to refresh a document that cannot be read. -/
  again : ∃ last left answer, next.loadAt key now after = .ok (last, left, answer) ∧
    ((Signals key.text now stored → ∃ record, DiskRecord.decode stored = .ok record) →
      left = after) ∧
    (Signals key.text now stored → (∀ record, DiskRecord.decode stored ≠ .ok record) →
      left.contentAt? place = none)

section

variable
  {tier : DiskTier}
  {key : Key}
  {now : Timestamp}
  {files : FileTree}
  {place : Place}
  {stored : Bytes}
  {verdict : Verdict}

/-- A second load changes nothing, unless a record that signalled has no whole document. -/
theorem Reading.load_again
    (reading : Reading key.text now stored verdict)
    (found : files.fileEntry? (tier.pathFor key) = some place)
    (present : files.contentAt? place = some stored) :
    ∃ last left answer,
      (tier.count verdict).loadAt key now (act files (tier.pathFor key) verdict) =
        .ok (last, left, answer) ∧
      ((Signals key.text now stored → ∃ record, DiskRecord.decode stored = .ok record) →
        left = act files (tier.pathFor key) verdict) ∧
      (Signals key.text now stored → (∀ record, DiskRecord.decode stored ≠ .ok record) →
        left.contentAt? place = none) := by
  obtain ⟨stillFound, content, -⟩ := act_of_found found present verdict
  obtain ⟨again, judged, idle, corrupt⟩ := reading.judge_again
  have samePath := pathFor_count tier verdict key
  rw [← samePath] at stillFound content ⊢
  refine ⟨_, _, _, loadAt_of_judge _ stillFound content judged, fun decodes => idle decodes _ _,
    fun signals undecoded => ?_⟩
  rw [reading.signals_iff.1 signals] at stillFound content ⊢
  rw [corrupt signals undecoded]
  exact (act_of_found stillFound content .corrupt).2.1

/-- A load does what the reading of the bytes calls for. -/
theorem Reading.loaded
    (reading : Reading key.text now stored verdict)
    (found : files.fileEntry? (tier.pathFor key) = some place)
    (present : files.contentAt? place = some stored) :
    tier.Loaded key now files place stored (tier.count verdict)
      (act files (tier.pathFor key) verdict) verdict.hit? := by
  obtain ⟨stillFound, content, others⟩ := act_of_found found present verdict
  have left : Verdict.refresh.leaves (some stored) = some (markBytes ++ stored.drop 4) :=
    congrArg some (DiskRecord.overwrittenAt_eq_marked stored)
  exact {
    hit := fun cached => reading.hit_iff
    gone := by
      rw [content, ← or_assoc, or_right_comm, reading.corrupt_iff, reading.outdated_iff]
      cases verdict <;> simp [Verdict.leaves]
    marked := fun signals => by
      have refreshed := reading.signals_iff.1 signals
      obtain ⟨header, read, -⟩ := signals
      rw [content, refreshed, left]
      exact ⟨DiskRecord.four_le_of_decodeHeader read, rfl, fun _ => DiskRecord.decode_marked⟩
    changed := fun other there differ => by
      rw [reading.signals_iff]
      rw [content] at there
      cases verdict with
      | refresh => rfl
      | corrupt | expired => cases there
      | absent | foreign | hit => exact absurd (Option.some.inj there).symm differ
    foreign := fun foreign => by
      rw [content, reading.foreign_iff.1 foreign]
      rfl
    others := others
    corruptCounted := fun corrupt => by rw [reading.corrupt_iff.1 corrupt]; rfl
    foreignCounted := fun foreign => by rw [reading.foreign_iff.1 foreign]; rfl
    expiredCounted := fun outdated => by rw [reading.outdated_iff.1 outdated]; rfl
    uncounted := fun notCorrupt notForeign notOutdated => by
      rw [reading.corrupt_iff] at notCorrupt
      rw [reading.foreign_iff] at notForeign
      rw [reading.outdated_iff] at notOutdated
      cases verdict with
      | corrupt => exact absurd rfl notCorrupt
      | foreign => exact absurd rfl notForeign
      | expired => exact absurd rfl notOutdated
      | absent | refresh | hit => rfl
    again := reading.load_again found present }

end

/-- Whatever bytes the file of a key holds, a load answers exactly the valid record of
the key that is not due, touches nothing but that file, and only as what it read calls
for, and counts at most one thing. -/
theorem loadAt_of_content
    (tier : DiskTier)
    (key : Key)
    (now : Timestamp)
    (files : FileTree)
    (place : Place)
    (stored : Bytes)
    (found : files.fileEntry? (tier.pathFor key) = some place)
    (present : files.contentAt? place = some stored)
    (measurable : Measurable key.text now stored) :
    ∃ next after hit, tier.loadAt key now files = .ok (next, after, hit) ∧
      tier.Loaded key now files place stored next after hit := by
  obtain ⟨verdict, reading⟩ := exists_reading measurable
  exact ⟨_, _, _, loadAt_of_judge tier found present reading.judge, reading.loaded found present⟩

/-! ## A record without its last mark -/

def leafTier : DiskTier := { settings := { root := "cache" } }

def leafKey : Key := { text := "page", storageId := "70/616765" }

def leafPlace : Place := ["cache", "70", "616765"]

/-- A tree whose only file is that of the key. -/
def leafFiles (stored : Bytes) : FileTree :=
  ((FileTree.empty.setNode ["cache"] .directory).setNode ["cache", "70"] .directory).setNode
    leafPlace (.file stored)

/-- A record that expires at 200, with zeros in place of the mark after its document. -/
def unclosedLeaf : Bytes :=
  (recordBytes leafKey ⟨{ expireTime := 200 }, ⟨"<open/>", by decide⟩⟩ 100).take 47 ++
    [0, 0, 0, 0]

/-- Content of the file after one load at a time, and after two. -/
def contentsAfterLoads (now : Timestamp) (files : FileTree) :
    Except Crash (Option Bytes × Option Bytes) := do
  let (tier, once, _) ← leafTier.loadAt leafKey now files
  let (_, twice, _) ← tier.loadAt leafKey now once
  return (once.contentAt? leafPlace, twice.contentAt? leafPlace)

/-- The second of two loads at one time removes the file that the first one marked. -/
theorem second_load_removes_unclosed :
    contentsAfterLoads 196 (leafFiles unclosedLeaf) =
      .ok (some (DiskRecord.marked unclosedLeaf), none) := by
  decide +kernel

/-- A load of a due record whose document is not closed. -/
theorem loadAt_of_content_unclosed :
    FileTree.fileEntry? (leafFiles unclosedLeaf) (leafTier.pathFor leafKey) = some leafPlace ∧
    (leafFiles unclosedLeaf).contentAt? leafPlace = some unclosedLeaf ∧
    Measurable leafKey.text 196 unclosedLeaf ∧
    ∃ next after hit, leafTier.loadAt leafKey 196 (leafFiles unclosedLeaf) =
        .ok (next, after, hit) ∧
      leafTier.Loaded leafKey 196 (leafFiles unclosedLeaf) leafPlace unclosedLeaf next after
        hit := by
  have found : FileTree.fileEntry? (leafFiles unclosedLeaf) (leafTier.pathFor leafKey) =
      some leafPlace := by
    decide +kernel
  have present : (leafFiles unclosedLeaf).contentAt? leafPlace = some unclosedLeaf := by
    decide +kernel
  have judged : judge leafKey.text 196 (some unclosedLeaf) = .ok .refresh := by decide +kernel
  have measurable := measurable_of_judge judged
  exact ⟨found, present, measurable,
    loadAt_of_content leafTier leafKey 196 _ leafPlace unclosedLeaf found present measurable⟩

end DiskTier
end FragmentCache
