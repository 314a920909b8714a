import FragmentCache.Record.Disk
import FragmentCache.Proofs.Record.Reader

/-!
# Disk records and their bytes

Some bytes are accepted as a disk record exactly when they are what that record is
written as, and the record is one that can be written without loss.
-/

namespace FragmentCache
namespace DiskRecord

open Record

variable {stored rest : Bytes}

theorem markOf_eq_ok_iff {word : UInt32} {prefetchMarked : Bool} :
    markOf word = .ok prefetchMarked ↔ word = signature prefetchMarked := by
  constructor
  · intro read
    unfold markOf at read
    split at read
    · next unmarked =>
        cases read
        exact unmarked
    · split at read
      · next marked =>
          cases read
          exact marked
      · cases read
  · rintro rfl
    exact markOf_signature prefetchMarked

/-- The record with a given header and document. -/
def Header.withDocument (header : Header) (document : Document) : DiskRecord where
  prefetchMarked := header.prefetchMarked
  tag := header.tag
  storedTime := header.storedTime
  key := header.key
  document := document

/-- A record that loses nothing when it is written: the length of its key fits a
word, and its content is new. -/
structure Storable (record : DiskRecord) : Prop where
  modified : record.tag.modified = true
  shortKey : (Text.toBytes record.key).length < UInt32.size

/-- A header is read exactly from its own encoding. -/
theorem readHeader_eq_ok_iff {size : Nat} {header : Header} (document : Document) :
    readHeader size stored = .ok (header, rest) ↔
      stored = (header.withDocument document).encodeHeader ++ rest ∧
        (header.withDocument document).Storable ∧
          header.bodyOffset = size - rest.length := by
  simp only [readHeader, bind_eq_ok_iff, lift_eq_ok_iff, takeWord_eq_ok_iff, takeTime_eq_ok_iff,
    take_eq_ok_iff, markOf_eq_ok_iff]
  constructor
  · rintro ⟨_, _, rfl, mark, _, ⟨rfl, rfl⟩, expireTime, _, rfl, lastModified, _, rfl, storedTime, _,
      rfl, keyLength, _, rfl, keyBytes, _, ⟨rfl, width⟩, read⟩
    cases decoded : Text.ofBytes? keyBytes with
    | none =>
        rw [decoded] at read
        cases read
    | some key =>
        rw [decoded] at read
        cases read
        rw [Text.ofBytes?_eq_some_iff] at decoded
        subst decoded
        have sameLength : UInt32.ofNat (Text.toBytes key).length = keyLength := by
          rw [width, UInt32.ofNat_toNat]
        refine ⟨?_, ⟨rfl, ?_⟩, rfl⟩
        · simp only [encodeHeader, Header.withDocument, sameLength, List.append_assoc]
        · change (Text.toBytes key).length < UInt32.size
          rw [width]
          exact keyLength.toNat_lt
  · rintro ⟨rfl, ⟨modified, shortKey⟩, offset⟩
    obtain ⟨prefetchMarked, ⟨_, lastModified, expireTime⟩, storedTime, key, _⟩ := header
    cases modified
    cases offset
    change (Text.toBytes key).length < UInt32.size at shortKey
    have width : (Text.toBytes key).length = (UInt32.ofNat (Text.toBytes key).length).toNat :=
      (UInt32.toNat_ofNat_of_lt' shortKey).symm
    simp only [encodeHeader, Header.withDocument, List.append_assoc]
    refine ⟨_, _, rfl, prefetchMarked, _, ⟨rfl, rfl⟩, expireTime, _, rfl, lastModified, _, rfl,
      storedTime, _, rfl, _, _, rfl, _, _, ⟨rfl, width⟩, ?_⟩
    rw [Text.ofBytes?_toBytes]
    rfl

theorem length_wordBytes (word : UInt32) : (wordBytes word).length = 4 :=
  LittleEndian.length_bytes 4 word.toNat

/-- The document is what stands between the marks, whatever bytes it has. -/
theorem readDocument_eq_ok_iff {document : Document} :
    readDocument stored = .ok (document, rest) ↔ stored = encodeBody document ∧ rest = [] := by
  simp only [readDocument, bind_eq_ok_iff, get_eq_ok_iff, unless_eq_ok_iff, lift_eq_ok_iff,
    takeWord_eq_ok_iff, take_eq_ok_iff, documentOf_eq_ok_iff, not_not, ne_eq]
  constructor
  · rintro ⟨_, _, rfl, rfl, _, _, ⟨rfl, rfl⟩, long, _, _, ⟨rfl, width⟩, _, last, rfl, rfl,
      rfl, rfl⟩
    -- The length leaves exactly the mark behind the document.
    have noRest : last = [] := by
      rw [List.length_append, List.length_append, length_wordBytes] at long width
      apply List.eq_nil_of_length_eq_zero
      omega
    subst noRest
    refine ⟨?_, rfl⟩
    rw [encodeBody, List.append_nil, List.append_assoc]
  · rintro ⟨rfl, rfl⟩
    have length : (document.toBytes ++ wordBytes documentEnd).length =
        document.toBytes.length + 4 := by
      rw [List.length_append, length_wordBytes]
    refine ⟨documentStart, document.toBytes ++ wordBytes documentEnd, ?_, rfl, _, _, ⟨rfl, rfl⟩,
      ?_, document.toBytes, wordBytes documentEnd, ⟨rfl, ?_⟩, documentEnd, [], ?_, rfl, rfl, rfl⟩
    · rw [encodeBody, List.append_assoc]
    · omega
    · omega
    · rw [List.append_nil]

/-- A document is read exactly from its own encoding between the marks. -/
theorem decodeDocument_eq_ok_iff {front : Bytes} {document : Document} :
    decodeDocument (front ++ stored) front.length = .ok document ↔
      stored = encodeBody document := by
  have within : ¬(front ++ stored).length < front.length := by
    rw [List.length_append]
    omega
  rw [decodeDocument, if_neg within, List.drop_left, map_fst_eq_ok_iff]
  simp only [readDocument_eq_ok_iff, exists_and_left, exists_eq, and_true]

/-- A record is a header and a document that are read one after the other. -/
theorem decode_eq_ok_iff_exists {record : DiskRecord} :
    decode stored = .ok record ↔
      ∃ header document, decodeHeader stored = .ok header ∧
        decodeDocument stored header.bodyOffset = .ok document ∧
          header.withDocument document = record := by
  change Except.bind (decodeHeader stored) (fun header =>
    Except.bind (decodeDocument stored header.bodyOffset) fun document =>
      Except.ok (header.withDocument document)) = _ ↔ _
  cases decodeHeader stored with
  | error fault => exact ⟨nofun, nofun⟩
  | ok header =>
      cases decoded : decodeDocument stored header.bodyOffset with
      | error fault => simp [Except.bind, decoded]
      | ok document => simp [Except.bind, decoded]

/-- Some bytes are read as a record exactly when it is written as them and loses
nothing that way. -/
theorem decode_eq_ok_iff {record : DiskRecord} :
    decode stored = .ok record ↔ stored = record.encode ∧ record.Storable := by
  rw [decode_eq_ok_iff_exists]
  constructor
  · rintro ⟨header, document, headerRead, documentRead, rfl⟩
    obtain ⟨rest, headerRead⟩ := map_fst_eq_ok_iff.1 headerRead
    obtain ⟨rfl, storable, offset⟩ := (readHeader_eq_ok_iff document).1 headerRead
    rw [offset, List.length_append, Nat.add_sub_cancel, decodeDocument_eq_ok_iff] at documentRead
    rw [documentRead]
    exact ⟨rfl, storable⟩
  · rintro ⟨rfl, storable⟩
    let header : Header := {
      prefetchMarked := record.prefetchMarked, tag := record.tag
      storedTime := record.storedTime, key := record.key
      bodyOffset := record.encodeHeader.length }
    refine ⟨header, record.document, ?_, decodeDocument_eq_ok_iff.2 rfl, rfl⟩
    rw [decodeHeader, map_fst_eq_ok_iff]
    refine ⟨encodeBody record.document, (readHeader_eq_ok_iff record.document).2 ?_⟩
    refine ⟨rfl, storable, ?_⟩
    rw [encode, List.length_append, Nat.add_sub_cancel]

/-- The record as it is read again, as new content. -/
def asNew (record : DiskRecord) : DiskRecord :=
  { record with tag := { record.tag with modified := true } }

/-- Whether content is new is not written. -/
theorem encode_asNew (record : DiskRecord) : record.asNew.encode = record.encode := rfl

/-- Records and accepted bytes are in exact correspondence: some bytes are read as a
record exactly when they are what it is written as, it is new content and its key fits.
So a record with such a key is restored as new content. -/
theorem decode_canonical (stored : Bytes) (record : DiskRecord) :
    (decode stored = .ok record ↔
      stored = record.encode ∧ record.tag.modified = true ∧
        (Text.toBytes record.key).length < UInt32.size) ∧
    ((Text.toBytes record.key).length < UInt32.size →
      decode record.encode = .ok record.asNew) := by
  constructor
  · rw [decode_eq_ok_iff]
    constructor
    · rintro ⟨written, storable⟩
      exact ⟨written, storable.modified, storable.shortKey⟩
    · rintro ⟨written, modified, shortKey⟩
      exact ⟨written, modified, shortKey⟩
  · intro shortKey
    rw [← encode_asNew, decode_eq_ok_iff]
    exact ⟨rfl, rfl, shortKey⟩

/-- A record of content that is not new, with a document that contains both marks. -/
def enclosingMarks : DiskRecord where
  prefetchMarked := true
  tag := { modified := false, lastModified := 60, expireTime := -1 }
  storedTime := 7
  key := "key"
  document := ⟨"<COD<>DOC>", by decide⟩

/-- A record whose key and document contain the marks themselves is read back. -/
theorem decode_canonical_marks :
    (Text.toBytes enclosingMarks.key).length < UInt32.size ∧
      decode enclosingMarks.encode = .ok enclosingMarks.asNew := by
  have shortKey : (Text.toBytes enclosingMarks.key).length < UInt32.size := by decide
  exact ⟨shortKey, (decode_canonical [] enclosingMarks).2 shortKey⟩

end DiskRecord
end FragmentCache
