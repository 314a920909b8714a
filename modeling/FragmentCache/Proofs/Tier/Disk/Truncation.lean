import FragmentCache.Proofs.Tier.Disk.Ledger

/-!
# Records cut off

Nothing but the mark behind a document tells where its record ends.  So a record that was
cut off is refused, unless the cut goes right behind a copy of that mark inside of the
document, and the text in front of the copy is a document as well: then that shorter
document is read.
-/

namespace FragmentCache

/-! ## Texts and their bytes -/

namespace Text

/-- The bytes of two texts in a row are those of the first and of the second. -/
theorem toBytes_append (front back : String) :
    toBytes (front ++ back) = toBytes front ++ toBytes back := by
  simp only [toBytes, String.toByteArray_append, ByteArray.data_append, Array.toList_append]

/-- A text whose bytes start with those of another one starts with that one. -/
theorem exists_eq_append_of_toBytes
    {text front : String}
    {rest : Bytes}
    (split : toBytes text = toBytes front ++ rest) :
    ∃ back, text = front ++ back := by
  have whole : text.toByteArray = front.toByteArray ++ ⟨rest.toArray⟩ := by
    apply ByteArray.ext
    apply Array.toList_inj.1
    rw [ByteArray.data_append, Array.toList_append]
    exact split
  have size : text.utf8ByteSize = front.toByteArray.size + (⟨rest.toArray⟩ : ByteArray).size := by
    rw [← String.size_toByteArray, whole, ByteArray.size_append]
  have within : (⟨front.toByteArray.size⟩ : String.Pos.Raw) ≤ text.rawEndPos := by
    rw [String.Pos.Raw.le_iff]
    change front.toByteArray.size ≤ text.utf8ByteSize
    omega
  have boundary : String.Pos.Raw.IsValid text ⟨front.toByteArray.size⟩ := by
    rw [String.Pos.Raw.isValid_iff_isValidUTF8_extract_zero, whole,
      ByteArray.extract_append_eq_left rfl]
    exact ⟨within, front.isValidUTF8⟩
  rw [String.Pos.Raw.isValid_iff_isValidUTF8_extract_utf8ByteSize, whole,
    ByteArray.extract_append_eq_right rfl size] at boundary
  refine ⟨⟨⟨rest.toArray⟩, boundary.2⟩, ?_⟩
  rw [← String.toByteArray_inj, String.toByteArray_append, whole]

end Text

/-! ## Documents that end within another one -/

namespace Document

/-- The text of the mark behind a document. -/
def endMark : String := ">DOC"

/-- A document whose text stands at the start of another one's, with the mark behind it. -/
def EndsWithin (shorter document : Document) : Prop :=
  ∃ rest, document.text = shorter.text ++ endMark ++ rest

end Document

namespace DiskRecord

open Record

/-- The mark at the end, as a text, is the word that ends a document. -/
theorem toBytes_endMark : Text.toBytes Document.endMark = wordBytes documentEnd := by
  decide +kernel

/-- The mark behind a document does not overlap itself: its first byte stands nowhere else
in it. -/
theorem endMark_overlap
    {front middle back : Bytes}
    (ending : wordBytes documentEnd = front ++ middle)
    (starting : wordBytes documentEnd = middle ++ back)
    (proper : front ≠ []) :
    middle = [] := by
  have distinct : (wordBytes documentEnd).Nodup := by decide
  cases middle with
  | nil => rfl
  | cons byte rest =>
      cases front with
      | nil => exact absurd rfl proper
      | cons first others =>
          have same : first = byte := by
            rw [ending, List.cons_append, List.cons_append] at starting
            exact (List.cons.inj starting).1
          rw [ending, same] at distinct
          exact absurd (List.mem_append_right others List.mem_cons_self)
            (List.nodup_cons.1 distinct).1

/-- Some bytes with the mark behind them start other ones that end with the mark: they are
the same, or the mark stands inside of the other ones. -/
theorem endMark_within
    {shorter longer rest : Bytes}
    (split : longer ++ wordBytes documentEnd = shorter ++ wordBytes documentEnd ++ rest)
    (proper : rest ≠ []) :
    ∃ inner, longer = shorter ++ wordBytes documentEnd ++ inner := by
  rw [List.append_assoc, eq_comm, List.append_eq_append_iff] at split
  obtain ⟨between, rfl, split⟩ | ⟨between, rfl, split⟩ := split
  · rw [List.append_eq_append_iff] at split
    obtain ⟨inner, rfl, -⟩ | ⟨overlap, ending, starting⟩ := split
    · exact ⟨inner, (List.append_assoc _ _ _).symm⟩
    · by_cases empty : between = []
      · have lengths := congrArg List.length starting
        rw [empty, List.nil_append] at ending
        rw [← ending, List.length_append] at lengths
        exact absurd (List.eq_nil_of_length_eq_zero (by omega)) proper
      · obtain rfl := endMark_overlap ending starting empty
        rw [List.append_nil] at ending
        exact ⟨[], by rw [ending, List.append_nil]⟩
  · have lengths := congrArg List.length split
    simp only [List.length_append] at lengths
    exact absurd (List.eq_nil_of_length_eq_zero (by omega)) proper

variable {record read : DiskRecord} {front : Bytes} {shorter document : Document}

/-- The body of a document starts that of another one exactly if it ends within it. -/
theorem encodeBody_starts_iff :
    encodeBody shorter <+: encodeBody document ∧ encodeBody shorter ≠ encodeBody document ↔
      shorter.EndsWithin document := by
  constructor
  · rintro ⟨⟨rest, split⟩, differ⟩
    have proper : rest ≠ [] := by
      rintro rfl
      rw [List.append_nil] at split
      exact differ split
    simp only [encodeBody, List.append_assoc, List.append_cancel_left_eq] at split
    rw [← List.append_assoc] at split
    obtain ⟨inner, within⟩ := endMark_within split.symm proper
    rw [Document.toBytes, Document.toBytes, ← toBytes_endMark, ← Text.toBytes_append] at within
    obtain ⟨back, whole⟩ := Text.exists_eq_append_of_toBytes within
    exact ⟨back, whole⟩
  · rintro ⟨rest, whole⟩
    have split : encodeBody document =
        encodeBody shorter ++ (Text.toBytes rest ++ wordBytes documentEnd) := by
      simp only [encodeBody, Document.toBytes, whole, Text.toBytes_append, toBytes_endMark,
        List.append_assoc]
    refine ⟨⟨_, split.symm⟩, ?_⟩
    intro same
    have lengths := congrArg List.length split
    rw [same, List.length_append, List.length_append, length_wordBytes] at lengths
    omega

/-! ## Records -/

/-- A header is read back whatever follows it. -/
theorem readHeader_encodeHeader
    (short : (Text.toBytes record.key).length < UInt32.size)
    (rest : Bytes) :
    readHeader 0 (record.encodeHeader ++ rest) = .ok ({
      prefetchMarked := record.prefetchMarked, tag := record.asNew.tag
      storedTime := record.storedTime, key := record.key, bodyOffset := 0 }, rest) :=
  (readHeader_eq_ok_iff record.document).2 ⟨rfl, ⟨rfl, short⟩, (Nat.zero_sub _).symm⟩

/-- What starts with the headers of two records has the same header twice. -/
theorem encodeHeader_cancel
    {back otherBack : Bytes}
    (short : (Text.toBytes record.key).length < UInt32.size)
    (storable : read.Storable)
    (same : record.encodeHeader ++ back = read.encodeHeader ++ otherBack) :
    read = { record.asNew with document := read.document } ∧ back = otherBack := by
  have headers := readHeader_encodeHeader short back
  rw [same, readHeader_encodeHeader storable.shortKey otherBack] at headers
  obtain ⟨prefetchMarked, ⟨modified, lastModified, expireTime⟩, storedTime, key, document⟩ := read
  obtain rfl : modified = true := storable.modified
  simp only [Except.ok.injEq, Prod.mk.injEq, Header.mk.injEq, asNew] at headers
  obtain ⟨⟨rfl, tag, rfl, rfl, -⟩, rfl⟩ := headers
  exact ⟨by rw [asNew, ← tag], rfl⟩

/-- A record with a key that fits is read from some of its bytes only if they reach right
behind a copy of the end mark inside of its document, with a document in front of the copy;
then that document is read, and found by loads under the record's key. -/
theorem cut_off_accepted_iff
    (record : DiskRecord)
    (short : (Text.toBytes record.key).length < UInt32.size) :
    (∀ front read,
      front <+: record.encode ∧ front ≠ record.encode ∧ decode front = .ok read ↔
        ∃ shorter : Document, shorter.EndsWithin record.document ∧
          front = { record with document := shorter }.encode ∧
          read = { record.asNew with document := shorter }) ∧
    ∀ front keyText now cached,
      front <+: record.encode → front ≠ record.encode →
        DiskTier.judge keyText now (some front) = .ok (.hit cached) →
          keyText = record.key ∧ cached.document.EndsWithin record.document := by
  have accepted : ∀ front read,
      front <+: record.encode ∧ front ≠ record.encode ∧ decode front = .ok read ↔
        ∃ shorter : Document, shorter.EndsWithin record.document ∧
          front = { record with document := shorter }.encode ∧
          read = { record.asNew with document := shorter } := by
    intro front read
    constructor
    · rintro ⟨⟨rest, split⟩, proper, decoded⟩
      obtain ⟨rfl, storable⟩ := decode_eq_ok_iff.1 decoded
      have headers : record.encodeHeader ++ encodeBody record.document =
          read.encodeHeader ++ (encodeBody read.document ++ rest) := by
        rw [← List.append_assoc]
        exact split.symm
      obtain ⟨sameRead, bodies⟩ := encodeHeader_cancel short storable headers
      have written : read.encode = { record with document := read.document }.encode := by
        rw [sameRead]
        rfl
      have differ : encodeBody read.document ≠ encodeBody record.document := by
        intro same
        rw [written] at proper
        exact proper (congrArg (record.encodeHeader ++ ·) same)
      exact ⟨read.document, encodeBody_starts_iff.1 ⟨⟨rest, bodies.symm⟩, differ⟩, written,
        sameRead⟩
    · rintro ⟨shorter, within, rfl, rfl⟩
      obtain ⟨starts, differ⟩ := encodeBody_starts_iff.2 within
      refine ⟨(List.prefix_append_right_inj record.encodeHeader).2 starts, ?_, ?_⟩
      · exact fun same => differ (List.append_cancel_left same)
      · exact decode_eq_ok_iff.2 ⟨rfl, rfl, short⟩
  refine ⟨accepted, ?_⟩
  intro front keyText now cached cut proper hit
  obtain ⟨read, decoded, rfl, rfl, -⟩ := DiskTier.decode_of_judge_hit hit
  obtain ⟨shorter, within, -, rfl⟩ := (accepted front read).1 ⟨cut, proper, decoded⟩
  exact ⟨rfl, within⟩

/-- A record whose document holds a copy of the mark behind a start tag. -/
def namingMark : DiskRecord where
  prefetchMarked := false
  tag := {}
  storedTime := 7
  key := "|page"
  document := ⟨"<a>>DOC</a>", by decide⟩

/-- The document in front of the copy. -/
def namingMarkStart : Document := ⟨"<a>", by decide⟩

/-- Cut off behind the copy, the record is read as one with a shorter document. -/
theorem cut_off_record_is_read :
    namingMark.encode.take 48 ≠ namingMark.encode ∧
      decode (namingMark.encode.take 48) = .ok { namingMark with document := namingMarkStart } := by
  have cut : namingMark.encode.take 48 = { namingMark with document := namingMarkStart }.encode := by
    decide +kernel
  rw [cut]
  exact ⟨by decide +kernel, decode_eq_ok_iff.2 ⟨rfl, rfl, by decide⟩⟩

/-- A record whose document names the end mark is accepted when it is cut off there. -/
theorem cut_off_accepted_iff_naming_mark :
    (Text.toBytes namingMark.key).length < UInt32.size ∧
      { namingMark with document := namingMarkStart }.encode <+: namingMark.encode ∧
      { namingMark with document := namingMarkStart }.encode ≠ namingMark.encode ∧
      decode { namingMark with document := namingMarkStart }.encode =
        .ok { namingMark with document := namingMarkStart } := by
  have short : (Text.toBytes namingMark.key).length < UInt32.size := by decide
  exact ⟨short, ((cut_off_accepted_iff namingMark short).1 _ _).2
    ⟨namingMarkStart, ⟨"</a>", rfl⟩, rfl, rfl⟩⟩

end DiskRecord
end FragmentCache
