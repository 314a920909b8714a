import FragmentCache.Proofs.Ledger

/-!
# Calls to refresh a document

The history of a key is what is saved under it, what its loads come upon, and what may
remove it.  When the loads are answered as a ledger says, one load at most between two saves
is the call to refresh the document; every other one finds the document as long as it is
there and fresh.
-/

namespace FragmentCache
namespace Refresh

open FragmentCache.Shelf (Item)

/-! ## Histories of a key -/

/-- What a load comes upon. -/
inductive Finding where
  | hit (cached : Cached)
  /-- The call to refresh the document. -/
  | signal
  | miss
  | crashed (crash : Crash)
  deriving DecidableEq

/-- What happens to a key. -/
inductive Event where
  | saved (cached : Cached) (now : Timestamp)
  /-- A load, with whether anything was there and what the load came upon. -/
  | loaded (now : Timestamp) (present : Bool) (finding : Finding)
  /-- Something that may have removed what was there. -/
  | swept
  deriving DecidableEq

namespace Event

def isSave : Event → Bool
  | saved _ _ => true
  | _ => false

def isSignal : Event → Bool
  | loaded _ _ .signal => true
  | _ => false

theorem isSignal_loaded (now : Timestamp) (present : Bool) (finding : Finding) :
    (loaded now present finding).isSignal = decide (finding = .signal) := by
  cases finding <;> rfl

/-- Whether the document may be gone after an event. -/
def mayRemove (cached : Cached) : Event → Bool
  | saved _ _ => false
  | loaded now _ _ => cached.tag.expiredAt now
  | swept => true

end Event

/-! ## What a history has to be -/

/-- What a load at `now` has to come upon, by what was saved, whether it is still there, and
whether somebody was told to refresh it since; `found` is the saved document as it is found. -/
def expected (found : Cached → Cached) (cached : Cached) (storedTime now : Timestamp)
    (present signalled : Bool) : Finding :=
  if !present || cached.tag.expiredAt now then .miss
  else if signalled then .hit (found cached)
  else match cached.tag.prefetchDueAt storedTime now with
    | .ok true => .signal
    | .ok false => .hit (found cached)
    | .error crash => .crashed crash

/-- What happens to a key after a save, up to the next one. -/
structure SignalsOnce (found : Cached → Cached) (cached : Cached) (storedTime : Timestamp)
    (stretch : List Event) : Prop where
  once : stretch.countP Event.isSignal ≤ 1
  loads : ∀ earlier now present finding later,
    stretch = earlier ++ .loaded now present finding :: later →
    finding = expected found cached storedTime now present (earlier.any Event.isSignal)
  /-- The document goes for a reason only. -/
  present : ∀ earlier now present finding later,
    stretch = earlier ++ .loaded now present finding :: later →
    earlier.any (Event.mayRemove cached) = false → present = true

/-- Every save is followed by one call to refresh at most, and nothing is found before the
first save. -/
structure SignalsOncePerSave (found : Cached → Cached) (events : List Event) : Prop where
  saved : ∀ before cached storedTime stretch after,
    events = before ++ .saved cached storedTime :: (stretch ++ after) →
    stretch.any Event.isSave = false → SignalsOnce found cached storedTime stretch
  unsaved : ∀ earlier now present finding later,
    events = earlier ++ .loaded now present finding :: later →
    earlier.any Event.isSave = false → present = false ∧ finding = .miss

/-! ## Histories that a ledger gives -/

/-- What an answer is to who asked. -/
def Finding.of (found : Cached → Cached) : Pool.Answer → Finding
  | .success cached => .hit (found cached)
  | .needPrefetch => .signal
  | .notFound | .expired => .miss

/-- A history that begins with something kept, and in which every load is answered by what is
kept then. -/
inductive History (found : Cached → Cached) : Option Item → List Event → Prop where
  | nil {kept : Option Item} : History found kept []
  | saved {kept : Option Item} {cached : Cached} {now : Timestamp} {rest : List Event}
      (others : History found (some { cached, storedTime := now }) rest) :
      History found kept (.saved cached now :: rest)
  | loaded {kept next : Option Item} {now : Timestamp} {answer : Pool.Answer}
      {rest : List Event}
      (asked : Ledger.ask kept now = .ok (next, answer))
      (others : History found next rest) :
      History found kept (.loaded now kept.isSome (.of found answer) :: rest)
  | crashed {kept : Option Item} {now : Timestamp} {crash : Crash} {rest : List Event}
      (asked : Ledger.ask kept now = .error crash)
      (others : History found kept rest) :
      History found kept (.loaded now kept.isSome (.crashed crash) :: rest)
  | swept {kept next : Option Item} {rest : List Event}
      (remains : ∀ item, next = some item → kept = some item)
      (others : History found next rest) :
      History found kept (.swept :: rest)

/-- What is done under one key is an event for it, and nothing for any other key. -/
theorem History.put
    {found : Cached → Cached}
    {ledger : Ledger}
    {key other : String}
    {kept : Option Item}
    {event : Event}
    {rest : List Event}
    (others : History found (ledger.put other kept key) rest)
    (happens : History found kept rest → History found (ledger other) (event :: rest)) :
    History found (ledger key) ((if other = key then some event else none).toList ++ rest) := by
  split
  · next same =>
      subst same
      rw [Ledger.put_same] at others
      exact happens others
  · next differ =>
      rw [Ledger.put_other differ] at others
      exact others

/-- The item of a document that was saved, if it is still there. -/
def IsCopy (cached : Cached) (storedTime : Timestamp) (signalled : Bool)
    (kept : Option Item) : Prop :=
  ∀ item, kept = some item → item = { cached, storedTime, prefetchMarked := signalled }

variable {found : Cached → Cached} {kept next : Option Item} {cached : Cached}
  {storedTime now : Timestamp} {signalled : Bool} {answer : Pool.Answer} {crash : Crash}
  {events before after : List Event}

/-- A history is one up to any moment and from there on. -/
theorem History.split
    (history : History found kept (before ++ after)) :
    History found kept before ∧ ∃ next, History found next after := by
  induction before generalizing kept with
  | nil => exact ⟨.nil, kept, history⟩
  | cons event rest inductionHypothesis =>
      cases history with
      | saved others =>
          obtain ⟨first, second⟩ := inductionHypothesis others
          exact ⟨.saved first, second⟩
      | loaded asked others =>
          obtain ⟨first, second⟩ := inductionHypothesis others
          exact ⟨.loaded asked first, second⟩
      | crashed asked others =>
          obtain ⟨first, second⟩ := inductionHypothesis others
          exact ⟨.crashed asked first, second⟩
      | swept remains others =>
          obtain ⟨first, second⟩ := inductionHypothesis others
          exact ⟨.swept remains first, second⟩

/-- A load of a fresh copy has to come upon what the copy is due for. -/
theorem expected_of_fresh
    (fresh : cached.tag.expiredAt now = false) :
    expected found cached storedTime now true signalled =
      match ({ cached, storedTime, prefetchMarked := signalled } : Item).dueAt now with
      | .ok true => .signal
      | .ok false => .hit (found cached)
      | .error crash => .crashed crash := by
  rw [expected, fresh]
  cases signalled <;> rfl

/-- Who was told to refresh a document is not told again. -/
theorem expected_ne_signal (present : Bool) :
    expected found cached storedTime now present true ≠ .signal := by
  rw [expected]
  split
  · nofun
  · exact nofun

/-- A load of a copy is answered as it has to be, and leaves a copy that is marked once it was
the call to refresh. -/
theorem IsCopy.ask
    (copy : IsCopy cached storedTime signalled kept)
    (asked : Ledger.ask kept now = .ok (next, answer)) :
    Finding.of found answer = expected found cached storedTime now kept.isSome signalled ∧
      IsCopy cached storedTime
        (signalled || (Event.loaded now kept.isSome (.of found answer)).isSignal) next ∧
      (cached.tag.expiredAt now = false → next.isSome = kept.isSome) := by
  obtain ⟨rfl, rfl, rfl⟩ | ⟨item, rfl, expired, rfl, rfl⟩ | ⟨item, rfl, fresh, due, rfl, rfl⟩ |
    ⟨item, rfl, fresh, due, rfl, rfl⟩ := Ledger.ask_cases asked
  · exact ⟨rfl, nofun, fun _ => rfl⟩
  · obtain rfl := copy item rfl
    change cached.tag.expiredAt now = true at expired
    refine ⟨?_, nofun, fun fresh => ?_⟩
    · rw [expected, expired, Bool.or_true]
      rfl
    · rw [expired] at fresh
      cases fresh
  · obtain rfl := copy item rfl
    refine ⟨?_, ?_, fun _ => rfl⟩
    · rw [Option.isSome_some, expected_of_fresh fresh, due]
      rfl
    · rintro item ⟨⟩
      rw [show Event.isSignal _ = true from rfl, Bool.or_true]
  · obtain rfl := copy item rfl
    refine ⟨?_, ?_, fun _ => rfl⟩
    · rw [Option.isSome_some, expected_of_fresh fresh, due]
      rfl
    · rintro item ⟨⟩
      rw [show Event.isSignal _ = false from rfl, Bool.or_false]

/-- A copy crashes where it is expected to. -/
theorem IsCopy.ask_crashed
    (copy : IsCopy cached storedTime signalled kept)
    (asked : Ledger.ask kept now = .error crash) :
    expected found cached storedTime now kept.isSome signalled = .crashed crash := by
  cases kept with
  | none => cases asked
  | some item =>
      obtain rfl := copy item rfl
      cases expired : Item.expiredAt { cached, storedTime, prefetchMarked := signalled } now with
      | true =>
          rw [Ledger.ask_of_expired expired] at asked
          cases asked
      | false =>
          rw [Ledger.ask_of_fresh expired] at asked
          rw [Option.isSome_some, expected_of_fresh expired]
          cases due : Item.dueAt _ now with
          | ok isDue =>
              rw [due] at asked
              cases asked
          | error other =>
              rw [due] at asked
              cases asked
              rfl

/-- What `SignalsOnce` says of a stretch in the middle: whether the document is there, and
whether somebody was told to refresh it. -/
structure Continues (found : Cached → Cached) (cached : Cached) (storedTime : Timestamp)
    (present signalled : Bool) (stretch : List Event) : Prop where
  once : stretch.countP Event.isSignal + signalled.toNat ≤ 1
  loads : ∀ earlier now isThere finding later,
    stretch = earlier ++ .loaded now isThere finding :: later →
    finding = expected found cached storedTime now isThere
      (signalled || earlier.any Event.isSignal)
  present : present = true → ∀ earlier now isThere finding later,
    stretch = earlier ++ .loaded now isThere finding :: later →
    earlier.any (Event.mayRemove cached) = false → isThere = true

theorem continues_nil (present signalled : Bool) :
    Continues found cached storedTime present signalled [] where
  once := by cases signalled <;> decide
  loads earlier _ _ _ _ split := by cases earlier <;> cases split
  present _ earlier _ _ _ _ split := by cases earlier <;> cases split

section Continues

variable {present : Bool} {stretch : List Event}

/-- A stretch goes on with a load that answers as expected. -/
theorem Continues.loaded
    {finding : Finding}
    {later : Bool}
    (continues : Continues found cached storedTime later
      (signalled || (Event.loaded now present finding).isSignal) stretch)
    (answered : finding = expected found cached storedTime now present signalled)
    (stays : cached.tag.expiredAt now = false → later = present) :
    Continues found cached storedTime present signalled
      (.loaded now present finding :: stretch) where
  once := by
    have rest := continues.once
    rw [List.countP_cons]
    cases told : (Event.loaded now present finding).isSignal with
    | false =>
        rw [told, Bool.or_false] at rest
        exact rest
    | true =>
        rw [Event.isSignal_loaded, decide_eq_true_eq] at told
        cases signalled with
        | false =>
            rw [told] at rest
            exact rest
        | true => exact absurd (answered.symm.trans told) (expected_ne_signal present)
  loads := by
    intro earlier time isThere other rest listed
    obtain ⟨rfl, same⟩ | ⟨between, rfl, split⟩ := List.cons_eq_append_iff.1 listed
    · cases same
      rw [List.any_nil, Bool.or_false]
      exact answered
    · rw [List.any_cons, ← Bool.or_assoc]
      exact continues.loads between time isThere other rest split
  present := by
    intro isPresent earlier time isThere other rest listed
    obtain ⟨rfl, same⟩ | ⟨between, rfl, split⟩ := List.cons_eq_append_iff.1 listed
    · cases same
      exact fun _ => isPresent
    · rw [List.any_cons, Bool.or_eq_false_iff]
      rintro ⟨fresh, unremoved⟩
      exact continues.present ((stays fresh).trans isPresent) between time isThere other rest split
        unremoved

/-- A stretch goes on with a sweep. -/
theorem Continues.swept
    {later : Bool}
    (continues : Continues found cached storedTime later signalled stretch) :
    Continues found cached storedTime present signalled (.swept :: stretch) where
  once := continues.once
  loads := by
    intro earlier time isThere other rest listed
    obtain ⟨rfl, same⟩ | ⟨between, rfl, split⟩ := List.cons_eq_append_iff.1 listed
    · cases same
    · exact continues.loads between time isThere other rest split
  present := by
    intro _ earlier time isThere other rest listed
    obtain ⟨rfl, same⟩ | ⟨between, rfl, split⟩ := List.cons_eq_append_iff.1 listed
    · cases same
    · nofun

end Continues

/-- Along a history in which nothing is saved, what is kept stays a copy of what was saved, so
every load comes upon what it has to. -/
theorem History.continues
    (history : History found kept events)
    (copy : IsCopy cached storedTime signalled kept)
    (unsaved : events.any Event.isSave = false) :
    Continues found cached storedTime kept.isSome signalled events := by
  induction history generalizing signalled with
  | nil => exact continues_nil _ _
  | saved => cases unsaved
  | loaded asked others inductionHypothesis =>
      obtain ⟨answered, copyNext, stays⟩ := copy.ask asked
      exact (inductionHypothesis copyNext unsaved).loaded answered stays
  | @crashed kept now crash rest asked others inductionHypothesis =>
      have silent : (signalled ||
        (Event.loaded now kept.isSome (.crashed crash)).isSignal) = signalled := Bool.or_false _
      refine Continues.loaded ?_ (copy.ask_crashed asked).symm fun _ => rfl
      rw [silent]
      exact inductionHypothesis copy unsaved
  | swept remains others inductionHypothesis =>
      exact (inductionHypothesis (fun item kept => copy item (remains item kept)) unsaved).swept

/-- As long as nothing was saved, nothing is kept and nothing is found. -/
theorem History.unsaved
    (history : History found none events)
    {earlier later : List Event}
    {present : Bool}
    {finding : Finding}
    (split : events = earlier ++ .loaded now present finding :: later)
    (unsaved : earlier.any Event.isSave = false) :
    present = false ∧ finding = .miss := by
  induction earlier generalizing events with
  | nil =>
      subst split
      cases history with
      | loaded asked others =>
          cases asked
          exact ⟨rfl, rfl⟩
      | crashed asked others => cases asked
  | cons event rest inductionHypothesis =>
      subst split
      cases history with
      | saved others => cases unsaved
      | loaded asked others =>
          cases asked
          exact inductionHypothesis others rfl unsaved
      | crashed asked others => cases asked
      | @swept _ next _ remains others =>
          cases next with
          | some item => cases remains item rfl
          | none => exact inductionHypothesis others rfl unsaved

/-- In a history that begins with nothing kept every save is followed by one call to refresh
at most. -/
theorem History.signalsOncePerSave
    (history : History found none events) :
    SignalsOncePerSave found events where
  saved := by
    rintro before cached storedTime stretch after rfl unsaved
    obtain ⟨-, kept, fromSave⟩ := history.split
    cases fromSave with
    | saved others =>
        obtain ⟨untilNext, -⟩ := others.split
        have copy : IsCopy cached storedTime false (some { cached, storedTime }) := by
          rintro item ⟨⟩
          rfl
        have continues := untilNext.continues copy unsaved
        exact ⟨continues.once, continues.loads, continues.present rfl⟩
  unsaved _ _ _ _ _ split unsaved := history.unsaved split unsaved

end Refresh
end FragmentCache
