import FragmentCache.Record.Memcached
import FragmentCache.Proofs.Record.Reader

/-!
# Memcached values and their bytes

Some bytes are accepted as a memcached value exactly when they are what that value is
written as.  All others are refused, for a time that is cut off or for what is wrong with
the document.
-/

namespace FragmentCache
namespace MemcachedValue

open Record

variable {stored rest : Bytes}

theorem read_eq_ok_iff {value : MemcachedValue} :
    read stored = .ok (value, rest) ↔
      stored = value.encode ∧ value.tag.modified = true ∧ rest = value.document.toBytes := by
  simp only [read, bind_eq_ok_iff, get_eq_ok_iff, lift_eq_ok_iff, pure_eq_ok_iff,
    takeTime_eq_ok_iff, documentOf_eq_ok_iff]
  constructor
  · rintro ⟨lastModified, _, rfl, expireTime, _, rfl, _, _, ⟨rfl, rfl⟩, document, _, ⟨rfl, rfl⟩,
      rfl, rfl⟩
    refine ⟨?_, rfl, rfl⟩
    rw [encode, List.append_assoc]
  · obtain ⟨⟨_, lastModified, expireTime⟩, document⟩ := value
    rintro ⟨rfl, rfl, rfl⟩
    refine ⟨lastModified, _, ?_, expireTime, _, rfl, _, _, ⟨rfl, rfl⟩, document, _, ⟨rfl, rfl⟩,
      rfl, rfl⟩
    rw [encode, List.append_assoc]

/-- Reading faults at the first time that is cut off, or at the document behind the two
times. -/
theorem read_eq_error_iff {fault : Fault} :
    read stored = .error fault ↔
      (fault = .truncated .lastModified ∧ stored.length < 8) ∨
        (fault = .truncated .expireTime ∧ 8 ≤ stored.length ∧ stored.length < 16) ∨
          (16 ≤ stored.length ∧ documentOf (stored.drop 16) = .error fault) := by
  simp only [read, bind_eq_error_iff, takeTime_eq_error_iff, exists_takeTime_iff, get_eq_ok_iff,
    get_ne_error, lift_eq_error_iff, pure_ne_error, and_false, exists_false, or_false, false_or,
    and_assoc, exists_and_left, exists_eq_left', List.drop_drop, List.length_drop]
  refine or_congr_right ?_
  constructor
  · rintro ⟨first, ⟨rfl, cutOff⟩ | ⟨second, refused⟩⟩
    · exact Or.inl ⟨rfl, first, by omega⟩
    · exact Or.inr ⟨by omega, refused⟩
  · rintro (⟨rfl, first, cutOff⟩ | ⟨long, refused⟩)
    · exact ⟨first, Or.inl ⟨rfl, by omega⟩⟩
    · exact ⟨by omega, Or.inr ⟨by omega, refused⟩⟩

/-- Values and accepted bytes are in exact correspondence: some bytes are read as a value
exactly when they are what it is written as, and it is new content.  All other bytes are
refused: for the first time that is cut off, or, with both times there, for what is wrong
with the rest as a document. -/
theorem decode_exact (stored : Bytes) (value : MemcachedValue) :
    (decode stored = .ok value ↔ stored = value.encode ∧ value.tag.modified = true) ∧
      ∀ fault, decode stored = .error fault ↔
        (fault = .truncated .lastModified ∧ stored.length < 8) ∨
          (fault = .truncated .expireTime ∧ 8 ≤ stored.length ∧ stored.length < 16) ∨
            ∃ reason : Document.Fault, fault = .invalidDocument reason ∧
              16 ≤ stored.length ∧ reason.Explains (stored.drop 16) := by
  refine ⟨?_, fun fault => ?_⟩
  · rw [decode, map_fst_eq_ok_iff]
    simp only [read_eq_ok_iff, exists_and_left, exists_eq, and_true]
  · rw [decode, map_fst_eq_error_iff, read_eq_error_iff, documentOf_eq_error_iff]
    refine or_congr_right (or_congr_right ?_)
    constructor
    · rintro ⟨long, reason, rfl, explains⟩
      exact ⟨reason, rfl, long, explains⟩
    · rintro ⟨reason, rfl, long, explains⟩
      exact ⟨long, reason, rfl, explains⟩

end MemcachedValue
end FragmentCache
