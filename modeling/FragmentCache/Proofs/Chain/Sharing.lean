import FragmentCache.Proofs.Chain.Coherence
import FragmentCache.Proofs.Key.Parts

/-!
# Documents under the key texts of others

A chain tells invocations apart by their key texts.  So a load may find a document that was
saved under another invocation, namely one that differs from its own in nothing but this:
one of them has no stylesheet, and the other one an empty one.
-/

namespace FragmentCache
namespace Chain

/-- A document is saved under one invocation only. -/
def OnlyUnder (invocation : Invocation) (document : Document) (operations : List Operation) :
    Prop :=
  ∀ other cached, .save other cached ∈ operations → cached.document = document →
    other = invocation

theorem exists_save_of_lastSaved
    {operations : List Operation}
    {text : String}
    {saved : Cached}
    (savedLast : lastSaved operations text = some saved) :
    ∃ invocation, .save invocation saved ∈ operations ∧ invocation.keyText = text := by
  have among := List.mem_of_getLast? savedLast
  obtain ⟨operation, listed, saves⟩ := List.mem_filterMap.1 among
  cases operation with
  | load invocation => cases saves
  | save invocation cached =>
      rw [Operation.saved?] at saves
      split at saves
      · next same =>
          cases saves
          exact ⟨invocation, listed, same⟩
      · cases saves

/-- A chain of one tier in memory. -/
def ofMemory (settings : MemoryTier.Settings) : Chain StandardTier :=
  ofTiers [.memory (.new settings)]

section Memory

variable {settings : MemoryTier.Settings} {first second : Invocation}

/-- What a load finds was saved under an invocation with its key text. -/
theorem exists_save_of_hit
    {surroundings reached later : Surroundings}
    {operations : List Operation}
    {chain next : Chain StandardTier}
    {found : Cached}
    (ran : (ofMemory settings).afterAll surroundings operations = (chain, reached))
    (loaded : chain.load second reached = (next, later, .ok (some found))) :
    ∃ invocation saved, .save invocation saved ∈ operations ∧
      saved.document = found.document ∧ invocation.keyText = second.keyText := by
  have vacant : ∀ layer ∈ [Layer.memory settings], layer.Vacant surroundings.files := by
    intro layer listed
    rw [List.mem_singleton.1 listed]
    trivial
  have fit : AllFit [Layer.memory settings] operations := by
    intro invocation cached _ layer listed
    rw [List.mem_singleton.1 listed]
    trivial
  have recalled := recallAll_run vacant (List.pairwise_singleton _ _) fit ran
  obtain ⟨-, current⟩ := recalled.load (List.pairwise_singleton _ _) loaded
  obtain ⟨_, -, saved, savedLast, same, -⟩ := current found rfl
  obtain ⟨invocation, listed, sameText⟩ := exists_save_of_lastSaved savedLast
  refine ⟨invocation, saved, listed, ?_, sameText⟩
  obtain rfl | rfl := same <;> rfl

/-- A document that does not expire. -/
def lasting : Cached := ⟨{}, ⟨"<lasting/>", by decide⟩⟩

/-- A load with the key text of the only save finds its document. -/
theorem exists_hit_after_save
    (settings : MemoryTier.Settings)
    (surroundings : Surroundings)
    (sameText : first.keyText = second.keyText) :
    ∃ chain reached next later found,
      (ofMemory settings).afterAll surroundings [.save first lasting] = (chain, reached) ∧
      chain.load second reached = (next, later, .ok (some found)) ∧
      found.document = lasting.document := by
  let memory := ((MemoryTier.new settings).saveAt (Key.raw first) lasting surroundings.readClock.1).1
  let unused : Counted StandardTier := .new (.memory (.new settings))
  have single : (ofMemory settings).tiers = [unused] := rfl
  have asked : CacheTier.save unused.tier (CacheTier.keyFor unused.tier first) lasting
      surroundings = (.memory memory, surroundings.readClock.2, true) :=
    StandardTier.save_memory lasting
  obtain ⟨chain, counted, tiers, sameTier, saved⟩ : ∃ chain counted,
      chain.tiers = [counted] ∧ counted.tier = .memory memory ∧
        (ofMemory settings).save first lasting surroundings =
          (chain, surroundings.readClock.2, true) :=
    ⟨_, _, rfl, rfl, save_of_single single asked⟩
  have sameKey : Key.raw second = Key.raw first := by
    rw [Key.raw, Key.raw, sameText]
  have keeps : memory.Keeps (Key.raw second) (some lasting.document) := by
    rw [sameKey]
    exact MemoryTier.keeps_saveAt rfl _
  obtain ⟨tier, answer, loadedAt, -, -, sameDocument⟩ :=
    keeps.loadAt surroundings.readClock.2.readClock.1
  obtain ⟨found, rfl, same⟩ := Option.map_eq_some_iff.1 sameDocument
  have loadedThere : CacheTier.load (StandardTier.memory memory)
      (CacheTier.keyFor (StandardTier.memory memory) second) surroundings.readClock.2 =
        (.memory tier, surroundings.readClock.2.readClock.2, .ok (some found)) := by
    rw [StandardTier.keyFor_memory]
    simp only [CacheTier.load, loadedAt]
  rw [← sameTier] at loadedThere
  refine ⟨chain, _, _, _, found, ?_, load_of_single tiers loadedThere, same⟩
  rw [afterAll, after, saved]
  rfl

end Memory

/-- In some run over one tier in memory, a load finds a document that was saved under one
invocation only, exactly if that invocation is its own, or differs from it in nothing but
the absence of a stylesheet against an empty one. -/
theorem finds_document_of_iff
    (settings : MemoryTier.Settings)
    (surroundings : Surroundings)
    (first second : Invocation) :
    (∃ operations chain reached next later found,
      (ofMemory settings).afterAll surroundings operations = (chain, reached) ∧
      chain.load second reached = (next, later, .ok (some found)) ∧
      OnlyUnder first found.document operations) ↔
    first.stylesheet.getD "" = second.stylesheet.getD "" ∧ first.method = second.method ∧
      first.params = second.params := by
  rw [← Invocation.parts_eq_iff, ← Invocation.keyText_eq_iff]
  constructor
  · rintro ⟨operations, chain, reached, next, later, found, ran, loaded, only⟩
    obtain ⟨invocation, saved, listed, sameDocument, sameText⟩ := exists_save_of_hit ran loaded
    rw [← only invocation saved listed sameDocument]
    exact sameText
  · intro sameText
    obtain ⟨chain, reached, next, later, found, ran, loaded, -⟩ :=
      exists_hit_after_save settings surroundings sameText
    refine ⟨_, chain, reached, next, later, found, ran, loaded, ?_⟩
    intro other cached listed _
    rw [List.mem_singleton, Operation.save.injEq] at listed
    exact listed.1

/-- The chain after a save under an invocation without a stylesheet. -/
def savedUnstyled : Chain StandardTier × Surroundings :=
  (ofMemory {}).afterAll {} [.save { method := "page" } lasting]

/-- With an empty stylesheet the document that was saved without one is found. -/
theorem unstyled_document_is_found :
    ({ method := "page" } : Invocation) ≠ { stylesheet := some "", method := "page" } ∧
    OnlyUnder { method := "page" } lasting.document [.save { method := "page" } lasting] ∧
    (savedUnstyled.1.load { stylesheet := some "", method := "page" } savedUnstyled.2).2.2 =
      .ok (some lasting) := by
  refine ⟨by decide, ?_, by decide +kernel⟩
  intro other cached listed _
  rw [List.mem_singleton, Operation.save.injEq] at listed
  exact listed.1

end Chain
end FragmentCache
