import FragmentCache.Record
import FragmentCache.Tag

/-!
# Disk records

A disk record starts with a signature that tells whether its refresh has been
claimed, followed by the times, the key and the document between two marks.
Nothing tells the length of the document: it reaches up to the last mark.
-/

namespace FragmentCache

/-- A document in a file, with its key. -/
structure DiskRecord where
  /-- Whether a caller was told to refresh the document. -/
  prefetchMarked : Bool
  /-- Freshness of the document. -/
  tag : Tag
  /-- When the record was written. -/
  storedTime : Timestamp
  /-- Key text. -/
  key : String
  /-- The document itself. -/
  document : Document
  deriving DecidableEq

namespace DiskRecord

/-- Name of the layout. -/
def layoutName : String := "disk-record"

/-- Signature of a record that nobody was told to refresh. -/
def unmarkedSignature : UInt32 := 0x54474401

/-- Signature of a record that somebody was told to refresh. -/
def markedSignature : UInt32 := 0x54474402

/-- Mark in front of the document. -/
def documentStart : UInt32 := 0x3c444f43

/-- Mark after the document. -/
def documentEnd : UInt32 := 0x434f443e

/-- The signature that holds a prefetch mark. -/
def signature (prefetchMarked : Bool) : UInt32 :=
  if prefetchMarked then markedSignature else unmarkedSignature

/-- The prefetch mark that a signature holds. -/
def markOf (signature : UInt32) : Except Record.Fault Bool :=
  if signature = unmarkedSignature then .ok false
  else if signature = markedSignature then .ok true
  else .error (.badSignature signature)

/-- What stands in front of the document. -/
structure Header where
  prefetchMarked : Bool
  tag : Tag
  storedTime : Timestamp
  key : String
  /-- Where the document's first mark starts. -/
  bodyOffset : Nat
  deriving DecidableEq

/-- Bytes in front of the document. -/
def encodeHeader (record : DiskRecord) : Bytes :=
  let key := Text.toBytes record.key
  Record.wordBytes (signature record.prefetchMarked) ++
    Record.timeBytes record.tag.expireTime ++
    Record.timeBytes record.tag.lastModified ++
    Record.timeBytes record.storedTime ++
    Record.wordBytes (UInt32.ofNat key.length) ++ key

/-- Bytes of the document between its marks. -/
def encodeBody (document : Document) : Bytes :=
  Record.wordBytes documentStart ++ document.toBytes ++ Record.wordBytes documentEnd

/-- Bytes of a record. -/
def encode (record : DiskRecord) : Bytes :=
  record.encodeHeader ++ encodeBody record.document

/-- Read the header. -/
def readHeader (size : Nat) : Record.Reader Header := do
  let prefetchMarked ← markOf (← Record.takeWord .signature)
  let expireTime ← Record.takeTime .expireTime
  let lastModified ← Record.takeTime .lastModified
  let storedTime ← Record.takeTime .storedTime
  let keyLength ← Record.takeWord .keyLength
  let keyBytes ← Record.take keyLength.toNat .key
  let some key := Text.ofBytes? keyBytes | throw .invalidKey
  let rest ← get
  return {
    prefetchMarked, tag := { lastModified, expireTime }, storedTime, key
    bodyOffset := size - rest.length }

/-- The header of a record. -/
def decodeHeader (stored : Bytes) : Except Record.Fault Header :=
  (readHeader stored.length stored).map Prod.fst

/-- Read the document up to the end. -/
def readDocument : Record.Reader Document := do
  if (← Record.takeWord .documentStart) ≠ documentStart then throw .badDocumentSignature
  let length := (← get).length
  if length < 4 then throw (.truncated .documentEnd)
  let bytes ← Record.take (length - 4) .document
  if (← Record.takeWord .documentEnd) ≠ documentEnd then throw .badDocumentSignature
  Record.documentOf bytes

/-- The document of a record whose header ends at the given offset. -/
def decodeDocument (stored : Bytes) (bodyOffset : Nat) : Except Record.Fault Document :=
  if stored.length < bodyOffset then .error (.truncated .document)
  else (readDocument (stored.drop bodyOffset)).map Prod.fst

/-- The record that some bytes hold. -/
def decode (stored : Bytes) : Except Record.Fault DiskRecord := do
  let header ← decodeHeader stored
  let document ← decodeDocument stored header.bodyOffset
  return {
    prefetchMarked := header.prefetchMarked, tag := header.tag
    storedTime := header.storedTime, key := header.key, document }

@[simp] theorem markOf_signature (prefetchMarked : Bool) :
    markOf (signature prefetchMarked) = .ok prefetchMarked := by
  cases prefetchMarked <;> rfl

end DiskRecord
end FragmentCache
