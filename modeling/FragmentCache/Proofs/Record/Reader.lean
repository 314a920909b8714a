import FragmentCache.Record
import FragmentCache.Proofs.Document.Reading
import Mathlib.Tactic.Common

/-!
# Readers and writers of fields

A reader succeeds exactly on the bytes that a writer puts in front of the rest, so
what is read is written back the same.
-/

namespace FragmentCache
namespace Record

variable {stored rest : Bytes} {field : Field}

/-! ## Sequences of readers -/

section Sequence

variable {α β : Type} {value : α}

/-- A sequence of two readers succeeds when the second one does on what the first
one leaves. -/
theorem bind_eq_ok_iff
    {reader : Reader α}
    {next : α → Reader β}
    {result : β × Bytes} :
    (reader >>= next) stored = .ok result ↔
      ∃ value rest, reader stored = .ok (value, rest) ∧ next value rest = .ok result := by
  change Except.bind (reader stored) (fun outcome => next outcome.1 outcome.2) = _ ↔ _
  cases reader stored with
  | error fault =>
      constructor
      · intro read
        cases read
      · rintro ⟨_, _, read, _⟩
        cases read
  | ok outcome =>
      constructor
      · intro read
        exact ⟨outcome.1, outcome.2, rfl, read⟩
      · rintro ⟨value, rest, read, last⟩
        cases read
        exact last

theorem pure_ne_error {fault : Fault} : (pure value : Reader α) stored ≠ .error fault :=
  nofun

theorem get_ne_error {fault : Fault} : (get : Reader Bytes) stored ≠ .error fault :=
  nofun

/-- A sequence of two readers faults where the first one does, or where the second one
does on what the first one leaves. -/
theorem bind_eq_error_iff
    {reader : Reader α}
    {next : α → Reader β}
    {fault : Fault} :
    (reader >>= next) stored = .error fault ↔
      reader stored = .error fault ∨
        ∃ value rest, reader stored = .ok (value, rest) ∧ next value rest = .error fault := by
  change Except.bind (reader stored) (fun outcome => next outcome.1 outcome.2) = _ ↔ _
  cases reader stored with
  | error first => simp [Except.bind]
  | ok outcome => simp [Except.bind, Prod.ext_iff]

theorem pure_eq_ok_iff {other : α} :
    (pure value : Reader α) stored = .ok (other, rest) ↔ value = other ∧ stored = rest := by
  change Except.ok (value, stored) = Except.ok (other, rest) ↔ _
  rw [Except.ok.injEq, Prod.mk.injEq]

theorem get_eq_ok_iff {front : Bytes} :
    (get : Reader Bytes) stored = .ok (front, rest) ↔ stored = front ∧ stored = rest := by
  change Except.ok (stored, stored) = Except.ok (front, rest) ↔ _
  rw [Except.ok.injEq, Prod.mk.injEq]

/-- A reader that may give up succeeds when it does not and what follows does. -/
theorem unless_eq_ok_iff
    {condition : Prop}
    [Decidable condition]
    {fault : Fault}
    {next : Reader α}
    {unreached : β → Reader α}
    {result : α × Bytes} :
    (if condition then throw fault >>= unreached else next : Reader α) stored = .ok result ↔
      ¬condition ∧ next stored = .ok result := by
  by_cases holds : condition
  · rw [if_pos holds]
    exact ⟨nofun, fun ⟨absurd, _⟩ => (absurd holds).elim⟩
  · rw [if_neg holds]
    exact ⟨fun read => ⟨holds, read⟩, fun ⟨_, read⟩ => read⟩

/-- What does not read the bytes leaves them alone. -/
theorem lift_eq_ok_iff {outcome : Except Fault α} :
    (liftM outcome : Reader α) stored = .ok (value, rest) ↔
      outcome = .ok value ∧ stored = rest := by
  change Except.bind outcome (fun value => Except.ok (value, stored)) = _ ↔ _
  cases outcome with
  | error fault => simp [Except.bind]
  | ok other => simp [Except.bind]

theorem lift_eq_error_iff {outcome : Except Fault α} {fault : Fault} :
    (liftM outcome : Reader α) stored = .error fault ↔ outcome = .error fault := by
  change Except.bind outcome (fun value => Except.ok (value, stored)) = _ ↔ _
  cases outcome <;> simp [Except.bind]

theorem map_fst_eq_ok_iff {outcome : Except Fault (α × Bytes)} :
    outcome.map Prod.fst = .ok value ↔ ∃ rest, outcome = .ok (value, rest) := by
  cases outcome with
  | error fault => exact ⟨nofun, nofun⟩
  | ok result =>
      change Except.ok result.1 = Except.ok value ↔ ∃ rest, Except.ok result = Except.ok (value, rest)
      simp only [Except.ok.injEq, Prod.ext_iff, exists_and_left, exists_eq', and_true]

theorem map_fst_eq_error_iff {outcome : Except Fault (α × Bytes)} {fault : Fault} :
    outcome.map Prod.fst = .error fault ↔ outcome = .error fault := by
  cases outcome <;> simp [Except.map]

end Sequence

/-! ## Fields -/

/-- As many bytes as asked for are taken exactly if they are there. -/
theorem take_eq_ok_iff {count : Nat} {front : Bytes} :
    take count field stored = .ok (front, rest) ↔
      stored = front ++ rest ∧ front.length = count := by
  constructor
  · intro read
    unfold take at read
    split at read
    · cases read
    · next enough =>
        cases read
        refine ⟨(List.take_append_drop count stored).symm, ?_⟩
        rw [List.length_take]
        omega
  · rintro ⟨rfl, rfl⟩
    exact take_append field front rest

/-- Taking bytes fails exactly if too few are left, and names the field. -/
theorem take_eq_error_iff {count : Nat} {fault : Fault} :
    take count field stored = .error fault ↔
      fault = .truncated field ∧ stored.length < count := by
  unfold take
  split
  · next short =>
      rw [Except.error.injEq, eq_comm]
      exact ⟨fun same => ⟨same, short⟩, fun ⟨same, _⟩ => same⟩
  · next long => exact ⟨nofun, fun ⟨_, short⟩ => absurd short long⟩

/-- A number is below the bound that the width of its bytes sets. -/
theorem value_lt (stored : Bytes) :
    LittleEndian.value stored < Nat.pow 256 stored.length := by
  have spelled := LittleEndian.value_bytes stored.length (LittleEndian.value stored)
  rw [LittleEndian.bytes_value] at spelled
  rw [spelled]
  exact Nat.mod_lt _ (Nat.pow_pos (by decide))

theorem wordBytes_value
    {front : Bytes}
    (width : front.length = 4) :
    wordBytes (UInt32.ofNat (LittleEndian.value front)) = front := by
  have bound := value_lt front
  rw [width] at bound
  have fits : (UInt32.ofNat (LittleEndian.value front)).toNat = LittleEndian.value front :=
    UInt32.toNat_ofNat_of_lt' bound
  rw [wordBytes, fits, ← width, LittleEndian.bytes_value]

theorem timeBytes_value
    {front : Bytes}
    (width : front.length = 8) :
    timeBytes (UInt64.ofNat (LittleEndian.value front)).toInt64 = front := by
  have bound := value_lt front
  rw [width] at bound
  have fits : (UInt64.ofNat (LittleEndian.value front)).toNat = LittleEndian.value front :=
    UInt64.toNat_ofNat_of_lt' bound
  rw [timeBytes, UInt64.toUInt64_toInt64, fits, ← width, LittleEndian.bytes_value]

/-- A word is read exactly from its own encoding. -/
theorem takeWord_eq_ok_iff {word : UInt32} :
    takeWord field stored = .ok (word, rest) ↔ stored = wordBytes word ++ rest := by
  constructor
  · intro read
    obtain ⟨front, _, taken, last⟩ := bind_eq_ok_iff.1 read
    obtain ⟨rfl, width⟩ := take_eq_ok_iff.1 taken
    obtain ⟨rfl, rfl⟩ := pure_eq_ok_iff.1 last
    rw [wordBytes_value width]
  · rintro rfl
    exact takeWord_append field word rest

/-- A time is read exactly from its own encoding. -/
theorem takeTime_eq_ok_iff {time : Timestamp} :
    takeTime field stored = .ok (time, rest) ↔ stored = timeBytes time ++ rest := by
  constructor
  · intro read
    obtain ⟨front, _, taken, last⟩ := bind_eq_ok_iff.1 read
    obtain ⟨rfl, width⟩ := take_eq_ok_iff.1 taken
    obtain ⟨rfl, rfl⟩ := pure_eq_ok_iff.1 last
    rw [timeBytes_value width]
  · rintro rfl
    exact takeTime_append field time rest

/-- Reading a time fails exactly if fewer than eight bytes are left. -/
theorem takeTime_eq_error_iff {fault : Fault} :
    takeTime field stored = .error fault ↔
      fault = .truncated field ∧ stored.length < 8 := by
  rw [takeTime_eq, ← take_eq_error_iff]
  cases take 8 field stored <;> simp [Except.map]

/-- A timestamp is read from any bytes that are enough for one. -/
theorem exists_takeTime_iff {holds : Bytes → Prop} :
    (∃ time rest, takeTime field stored = .ok (time, rest) ∧ holds rest) ↔
      8 ≤ stored.length ∧ holds (stored.drop 8) := by
  rw [takeTime_eq, take]
  by_cases short : stored.length < 8
  · simp [short, Except.map, Nat.not_le.2 short]
  · simp [short, Except.map, Nat.le_of_not_lt short]

theorem ofBytes_eq_ok_iff {document : Document} :
    Document.ofBytes stored = .ok document ↔ stored = document.toBytes := by
  constructor
  · intro read
    unfold Document.ofBytes at read
    split at read
    · next text decoded =>
        rw [Document.ofText_eq_ok_iff] at read
        rw [Document.toBytes, read]
        exact Text.ofBytes?_eq_some_iff.1 decoded
    · cases read
  · rintro rfl
    exact Document.ofBytes_toBytes document

/-- A document is read exactly from its own text. -/
theorem documentOf_eq_ok_iff {document : Document} :
    documentOf stored = .ok document ↔ stored = document.toBytes := by
  rw [← ofBytes_eq_ok_iff, documentOf]
  cases Document.ofBytes stored with
  | error fault => exact ⟨nofun, nofun⟩
  | ok other =>
      change Except.ok other = Except.ok document ↔ Except.ok other = Except.ok document
      rw [Except.ok.injEq, Except.ok.injEq]

/-- Reading a document fails for the reasons that its bytes are no document. -/
theorem documentOf_eq_error_iff {fault : Fault} :
    documentOf stored = .error fault ↔
      ∃ reason : Document.Fault, fault = .invalidDocument reason ∧ reason.Explains stored := by
  simp only [← Document.ofBytes_eq_error_iff, documentOf]
  cases Document.ofBytes stored with
  | error reason => simp [Except.mapError, eq_comm]
  | ok document => simp [Except.mapError]

end Record
end FragmentCache
