import FragmentCache.Proofs.Block.Accounts

/-!
# How often a document is computed

Parties that miss one document at the same time compute it once for everybody who
entered when no lock was listed, and once more if the first of them was overtaken on
the way to the lock.
-/

namespace FragmentCache
namespace Block
namespace Gathering

variable {σ : Type} {invocation : Invocation} {minimum : Duration} {kept : Option Document}

/-- The stages that the parties are in. -/
def stages (gathering : Gathering MemoryTier σ) : List Call.Stage :=
  gathering.parties.map Party.stage

/-- Parties that call for one invocation, with the document kept for it. -/
structure Orderly (gathering : Gathering MemoryTier σ) (invocation : Invocation)
    (minimum : Duration) (kept : Option Document) : Prop where
  keeps : gathering.shared.chain.Keeps minimum invocation kept
  seated : Call.Seated invocation.keyText gathering.shared.chain.flights gathering.stages
  balanced : Call.Balanced invocation.keyText ⟨gathering.shared.chain.flights, kept⟩
    gathering.stages gathering.log
  attends : ∀ party ∈ gathering.parties, party.Attends invocation minimum
  works : ∀ party ∈ gathering.parties, party.Works

theorem isSheltered_of_fits
    {stage : Call.Stage}
    {made : List Document}
    (fits : stage.Fits kept made) :
    stage.IsSheltered := by
  cases stage with
  | starting caller => cases caller with
      | none => exact fits
      | some caller => trivial
  | running caller run => cases caller with
      | none => exact fits
      | some caller => trivial
  | _ => trivial

/-- The party whose turn it is, beside the others. -/
theorem exists_others
    {parties : List (Party σ)}
    {turn : Nat}
    {party : Party σ}
    (mine : parties[turn]? = some party) :
    ∃ others, parties.Perm (party :: others) ∧
      ∀ next, (parties.set turn next).Perm (next :: others) := by
  obtain ⟨within, rfl⟩ := List.getElem?_eq_some_iff.1 mine
  refine ⟨parties.eraseIdx turn, (List.getElem_cons_eraseIdx_perm within).symm, ?_⟩
  intro next
  exact List.set_perm_cons_eraseIdx within next

/-- Whoever's turn it is, a step leaves a gathering in order. -/
theorem Orderly.step
    {gathering : Gathering MemoryTier σ}
    (orderly : gathering.Orderly invocation minimum kept)
    (turn : Nat) :
    ∃ later, (gathering.step turn).Orderly invocation minimum later := by
  unfold Gathering.step
  cases mine : gathering.parties[turn]? with
  | none => exact ⟨kept, orderly⟩
  | some party =>
      dsimp only
      cases stepped : Call.step? party.block party.request party.stage gathering.shared with
      | none => exact ⟨kept, orderly⟩
      | some outcome =>
          obtain ⟨stage, shared⟩ := outcome
          obtain ⟨others, before, after⟩ := exists_others mine
          have member : party ∈ gathering.parties := before.mem_iff.2 List.mem_cons_self
          have neighbours : ∀ neighbour ∈ others, neighbour ∈ gathering.parties := by
            intro neighbour listed
            exact before.mem_iff.2 (List.mem_cons_of_mem _ listed)
          have seated := orderly.seated.perm (before.map Party.stage)
          have balanced := orderly.balanced.perm (before.map Party.stage)
          have sheltered := isSheltered_of_fits (balanced.fits _ List.mem_cons_self)
          obtain ⟨later, keeps, move, works⟩ := exists_move (orderly.attends party member)
            (orderly.works party member) sheltered orderly.keeps stepped
          have reordered := ((after { party with stage }).map Party.stage).symm
          refine ⟨later, keeps, (seated.move move).perm reordered,
            (balanced.move seated move).perm reordered, ?_, ?_⟩
          · intro attendant listed
            obtain rfl | listed := List.mem_cons.1 ((after _).mem_iff.1 listed)
            · have attends := orderly.attends party member
              exact ⟨attends.sameInvocation, attends.cached, attends.lasting⟩
            · exact orderly.attends attendant (neighbours attendant listed)
          · intro worker listed
            obtain rfl | listed := List.mem_cons.1 ((after _).mem_iff.1 listed)
            · exact works
            · exact orderly.works worker (neighbours worker listed)

/-- A gathering stays in order while its parties take turns. -/
theorem Orderly.run
    {gathering : Gathering MemoryTier σ}
    (orderly : gathering.Orderly invocation minimum kept)
    (turns : List Nat) :
    ∃ later, (gathering.run turns).Orderly invocation minimum later := by
  induction turns generalizing gathering kept with
  | nil => exact ⟨kept, orderly⟩
  | cons turn rest inductionHypothesis =>
      obtain ⟨later, stepped⟩ := orderly.step turn
      exact inductionHypothesis stepped

/-- Parties that come to an empty memory tier. -/
def start (settings : MemoryTier.Settings) (surroundings : Surroundings) (work : σ)
    (parties : List (Party σ)) : Gathering MemoryTier σ where
  shared := { chain := .ofTiers [.new settings], surroundings, work }
  parties := parties

/-- Parties that have asked nothing yet are in order. -/
theorem orderly_start
    {settings : MemoryTier.Settings}
    {parties : List (Party σ)}
    (asking : ∀ party ∈ parties, party.stage = .asking)
    (attends : ∀ party ∈ parties, party.Attends invocation settings.minimalCacheTime)
    (surroundings : Surroundings)
    (work : σ) :
    (start settings surroundings work parties).Orderly invocation settings.minimalCacheTime
      none := by
  have allAsking : ∀ stage ∈ (start settings surroundings work parties).stages,
      stage = .asking := by
    intro stage listed
    obtain ⟨party, member, rfl⟩ := List.mem_map.1 listed
    exact asking party member
  have none_of : ∀ test : Call.Stage → Bool, test .asking = false →
      (start settings surroundings work parties).stages.countP test = 0 := by
    intro test fails
    rw [List.countP_eq_zero]
    intro stage listed
    rw [allAsking stage listed, fails]
    exact Bool.false_ne_true
  have unseated : ∀ stage ∈ (start settings surroundings work parties).stages,
      stage.caller? = none := by
    intro stage listed
    rw [allAsking stage listed]
    rfl
  refine ⟨Chain.keeps_ofTiers settings invocation, ⟨Flights.sound_empty, ?_, ?_⟩, ?_, attends, ?_⟩
  · intro stage listed caller place seat
    rw [allAsking stage listed] at seat
    cases seat
  · rw [List.filterMap_eq_nil_iff.2 unseated]
    exact List.nodup_nil
  · constructor
    · intro stage listed
      rw [allAsking stage listed]
      trivial
    · exact nofun
    · exact (Nat.zero_add _).trans (none_of (Call.Stage.isDue none) rfl)
    · exact ((Nat.zero_add _).trans (none_of Call.Stage.waitsFirst rfl)).symm
    · exact fun some => absurd rfl some
    · exact fun _ => rfl
    · intro stage listed holds
      rw [allAsking stage listed] at holds
      exact holds.elim
    · exact nofun
    · exact fun some => absurd rfl some
  · intro party member caller run running
    rw [asking party member] at running
    cases running

/-- Somebody acquired a lock, and who did so first had not found it listed. -/
theorem head?_eq_some_false_iff {acquisitions : List Bool} :
    acquisitions.head? = some false ↔ acquisitions ≠ [] ∧ overtaken acquisitions = 0 := by
  cases acquisitions with
  | nil => simp
  | cons first rest => cases first <;> simp [overtaken]

/-- Somebody has acquired the lock, if the first to do so was overtaken. -/
theorem ne_nil_of_overtaken
    {acquisitions : List Bool}
    (ahead : overtaken acquisitions ≠ 0) :
    acquisitions ≠ [] := by
  rintro rfl
  exact ahead rfl

theorem exists_finished_of_answer?
    {stage : Call.Stage}
    (answered : stage.answer?.isSome = true) :
    ∃ answer, stage = .finished answer := by
  cases stage with
  | finished answer => exact ⟨answer, rfl⟩
  | _ => cases answered

theorem length_documentsOf_le (executions : List Outcome) :
    (documentsOf executions).length ≤ executions.length :=
  List.length_filterMap_le _ _

/-- Calls that answer with documents of a list of one at most answer the same. -/
theorem exists_common
    {parties : List (Party σ)}
    {documents : List Document}
    (answers : ∀ party ∈ parties, ∃ document ∈ documents,
      party.stage = .finished (.ok (.ok document)))
    (single : documents.length ≤ 1) :
    ∃ document, ∀ party ∈ parties, party.stage = .finished (.ok (.ok document)) := by
  cases parties with
  | nil =>
      refine ⟨Document.error "" "", ?_⟩
      intro party member
      exact absurd member List.not_mem_nil
  | cons first rest =>
      obtain ⟨document, made, -⟩ := answers first List.mem_cons_self
      refine ⟨document, ?_⟩
      intro party member
      obtain ⟨other, otherMade, finished⟩ := answers party member
      obtain ⟨only, rfl⟩ := List.length_eq_one_iff.1
        (Nat.le_antisymm single (List.length_pos_of_mem made))
      rw [List.mem_singleton] at made otherMade
      rw [made, ← otherMade]
      exact finished

/-- When all calls for one invocation have ended, the work was done as often as somebody
entered with no lock listed, and once more if one of them was overtaken on the way to
its first lock; every call answers with a document of that work.  So the document was
computed once for all of them exactly when one call only entered with no lock listed,
and was the first to acquire the lock. -/
theorem computed_once_iff
    (settings : MemoryTier.Settings)
    (surroundings : Surroundings)
    (work : σ)
    (parties : List (Party σ))
    (asking : ∀ party ∈ parties, party.stage = .asking)
    (attends : ∀ party ∈ parties, party.Attends invocation settings.minimalCacheTime)
    (turns : List Nat)
    {last : Gathering MemoryTier σ}
    (ran : (start settings surroundings work parties).run turns = last)
    (allOver : last.IsOver) :
    last.executions.length = last.entries.count false + overtaken last.acquisitions ∧
    (∀ party ∈ last.parties, ∃ document ∈ documentsOf last.executions,
      party.stage = .finished (.ok (.ok document))) ∧
    ((last.executions.length = 1 ∧ ∃ document, ∀ party ∈ last.parties,
        party.stage = .finished (.ok (.ok document))) ↔
      last.entries.count false = 1 ∧ last.acquisitions.head? = some false) := by
  obtain ⟨kept, orderly⟩ := (orderly_start asking attends surroundings work).run turns
  rw [ran] at orderly
  have ended : ∀ stage ∈ last.stages, ∃ answer, stage = .finished answer := by
    intro stage listed
    obtain ⟨party, member, rfl⟩ := List.mem_map.1 listed
    exact exists_finished_of_answer? (allOver party member)
  have nothingDue : last.stages.countP (Call.Stage.isDue kept) = 0 := by
    rw [List.countP_eq_zero]
    intro stage listed
    obtain ⟨answer, rfl⟩ := ended stage listed
    exact Bool.false_ne_true
  have nobodyWaits : last.stages.countP Call.Stage.waitsFirst = 0 := by
    rw [List.countP_eq_zero]
    intro stage listed
    obtain ⟨answer, rfl⟩ := ended stage listed
    exact Bool.false_ne_true
  have counted := orderly.balanced.counted
  have entered := orderly.balanced.entered
  rw [nothingDue] at counted
  rw [nobodyWaits] at entered
  change last.executions.length + 0 =
    last.acquisitions.count false + overtaken last.acquisitions at counted
  change last.entries.count false = last.acquisitions.count false + 0 at entered
  have answers : ∀ party ∈ last.parties, ∃ document ∈ documentsOf last.executions,
      party.stage = .finished (.ok (.ok document)) := by
    intro party member
    have listed : party.stage ∈ last.stages := List.mem_map_of_mem member
    obtain ⟨answer, finished⟩ := ended _ listed
    have fits := orderly.balanced.fits _ listed
    rw [finished] at fits ⊢
    obtain ⟨-, document, made, same⟩ := fits
    exact ⟨document, made, by rw [same]⟩
  refine ⟨by omega, answers, ?_⟩
  rw [head?_eq_some_false_iff]
  constructor
  · rintro ⟨once, -⟩
    have inOrder : overtaken last.acquisitions = 0 := by
      by_contra ahead
      have somebody := orderly.balanced.acquired (ne_nil_of_overtaken ahead)
      change 0 < last.entries.count false at somebody
      omega
    refine ⟨by omega, ?_, inOrder⟩
    intro nobody
    rw [inOrder, nobody, List.count_nil] at counted
    omega
  · rintro ⟨single, -, inOrder⟩
    have once : last.executions.length = 1 := by omega
    refine ⟨once, exists_common answers ?_⟩
    exact once ▸ length_documentsOf_le last.executions

/-- A block whose first document differs from the later ones. -/
def changing : Block Nat where
  name := "changing"
  policy := .cached true none
  invocation _ := { method := "changing" }
  execute runs _ := (runs + 1, {
    outcome := .ok (.ok ⟨{ lastModified := 1 },
      if runs = 0 then ⟨"<first/>", by decide⟩ else ⟨"<later/>", by decide⟩⟩) })

/-- Two calls of the changing block. -/
def twoCalls : List (Party Nat) :=
  List.replicate 2 { block := changing, request := {} }

theorem asking_twoCalls : ∀ party ∈ twoCalls, party.stage = .asking := by
  intro party member
  rw [List.eq_of_mem_replicate member]

theorem attends_twoCalls :
    ∀ party ∈ twoCalls, party.Attends { method := "changing" } (.seconds 5) := by
  intro party member
  rw [List.eq_of_mem_replicate member]
  refine ⟨rfl, ⟨none, rfl⟩, ?_⟩
  intro work
  refine ⟨_, rfl, ?_⟩
  intro now
  exact ⟨rfl, rfl⟩

/-- Both calls miss, and the second one enters while the first one is at work. -/
def waitingTurns : List Nat := [0, 1, 0, 0, 0, 1, 0, 0, 0, 0, 1, 1, 1, 1, 1]

/-- The first call misses, and enters only after the second one has ended. -/
def lateTurns : List Nat := 0 :: (List.replicate 8 1 ++ List.replicate 7 0)

/-- When the second of two calls enters before the first one ends, work is done once. -/
theorem computed_once_iff_waiting :
    ((start {} {} 0 twoCalls).run waitingTurns).IsOver ∧
    ((start {} {} 0 twoCalls).run waitingTurns).executions.length = 1 ∧
    ∃ document, ∀ party ∈ ((start {} {} 0 twoCalls).run waitingTurns).parties,
      party.stage = .finished (.ok (.ok document)) := by
  have allOver : ((start {} {} 0 twoCalls).run waitingTurns).IsOver := by
    unfold IsOver
    decide +kernel
  obtain ⟨-, -, once⟩ :=
    computed_once_iff {} {} 0 twoCalls asking_twoCalls attends_twoCalls waitingTurns rfl
      allOver
  refine ⟨allOver, once.2 ⟨?_, ?_⟩⟩
  · decide +kernel
  · decide +kernel

/-- Texts of the documents that calls ended with. -/
def texts (gathering : Gathering MemoryTier σ) : List String :=
  gathering.parties.filterMap fun party =>
    match party.stage with
    | .finished (.ok (.ok document)) => some document.text
    | _ => none

/-- A call that is late enters with no lock listed, and computes the document again. -/
theorem computed_twice_when_late :
    (∀ party ∈ twoCalls, party.stage = .asking) ∧
    (∀ party ∈ twoCalls, party.Attends { method := "changing" } (.seconds 5)) ∧
    ((start {} {} 0 twoCalls).run lateTurns).IsOver ∧
    ((start {} {} 0 twoCalls).run lateTurns).executions.length = 2 ∧
    ((start {} {} 0 twoCalls).run lateTurns).texts = ["<later/>", "<first/>"] := by
  refine ⟨asking_twoCalls, attends_twoCalls, ?_, ?_, ?_⟩
  · unfold IsOver
    decide +kernel
  · decide +kernel
  · decide +kernel

end Gathering
end Block
end FragmentCache
