import FragmentCache.Proofs.Chain.Layers
import FragmentCache.Proofs.Chain.Run

/-!
# Coherence of a chain

Every tier of a chain recalls what was saved last, whatever it dropped in between: a load
changes no tier in this, a save asks every tier, and what one tier does to its files does
not reach those of another one.  So a load finds what was saved last under the key text,
as a document that is fresh when it is found, or nothing.
-/

namespace FragmentCache
namespace Chain

/-- Every tier recalls what was saved last. -/
abbrev RecallAll (files : FileTree) (last : LastSaves) (layers : List Layer)
    (tiers : List (Counted StandardTier)) : Prop :=
  List.Forall₂ (fun layer counted => layer.Recalls files last counted.tier) layers tiers

/-- Tiers of layers that lie apart from some others recall what they did. -/
def Spares (layers : List Layer) (before after : FileTree) : Prop :=
  ∀ (other : Layer) last tier, (∀ layer ∈ layers, other.Apart layer) →
    other.Recalls before last tier → other.Recalls after last tier

section Spares

variable {layer : Layer} {layers : List Layer} {before between after : FileTree}
  {last : LastSaves} {tiers : List (Counted StandardTier)}

theorem spares_nil (files : FileTree) : Spares [] files files :=
  fun _ _ _ _ recalls => recalls

/-- What is confined to the first layer spares all those behind it. -/
theorem spares_of_confines (confines : layer.Confines before after) :
    Spares (layer :: layers) before after := by
  intro other last tier apart recalls
  exact recalls.of_confines (apart layer List.mem_cons_self) confines

/-- What is confined to one layer, and then spares the others, spares those behind that
layer. -/
theorem Spares.cons
    (confines : layer.Confines before between)
    (spares : Spares layers between after) :
    Spares (layer :: layers) before after := by
  intro other last tier apart recalls
  obtain ⟨headApart, restApart⟩ := List.forall_mem_cons.1 apart
  exact spares other last tier restApart (recalls.of_confines headApart confines)

/-- What one tier does leaves the tiers of layers that lie apart. -/
theorem RecallAll.of_confines
    (recalled : RecallAll before last layers tiers)
    (apart : ∀ other ∈ layers, layer.Apart other)
    (confines : layer.Confines before after) :
    RecallAll after last layers tiers := by
  induction recalled with
  | nil => exact .nil
  | cons recalls _ inductionHypothesis =>
      obtain ⟨headApart, restApart⟩ := List.forall_mem_cons.1 apart
      exact .cons (recalls.of_confines headApart.symm confines) (inductionHypothesis restApart)

end Spares

/-! ## Tiers one after the other -/

section Tiers

variable {layers : List Layer} {last : LastSaves} {tiers next : List (Counted StandardTier)}
  {invocation : Invocation} {surroundings later : Surroundings}

/-- A load keeps what every tier recalls, and the tier that answers finds nothing else. -/
theorem RecallAll.loadFrom
    (recalled : RecallAll surroundings.files last layers tiers)
    (apart : layers.Pairwise Layer.Apart)
    {answer : Except Crash (Option Cached)}
    (loaded : loadFrom invocation tiers surroundings = (next, later, answer)) :
    RecallAll later.files last layers next ∧ Spares layers surroundings.files later.files ∧
      ∀ found, answer = .ok (some found) → ∃ reading,
        answeredAt invocation tiers surroundings = some reading ∧
          found.IsCurrent last invocation.keyText reading := by
  induction layers generalizing tiers surroundings next with
  | nil =>
      cases recalled
      cases loaded
      exact ⟨.nil, spares_nil _, nofun⟩
  | cons layer layers inductionHypothesis =>
      obtain - | ⟨recalls, recallRest⟩ := recalled
      next counted rest =>
      obtain ⟨headApart, restApart⟩ := List.pairwise_cons.1 apart
      rcases asked : counted.load (CacheTier.keyFor counted.tier invocation) surroundings with
        ⟨changed, between, reply⟩
      obtain ⟨stays, confines, current⟩ := recalls.load (Counted.load_tier asked)
      have recallBetween := RecallAll.of_confines recallRest headApart confines
      rcases reply with crash | _ | cached
      · rw [loadFrom_of_stop asked rfl] at loaded
        cases loaded
        exact ⟨.cons stays recallBetween, spares_of_confines confines, nofun⟩
      · rcases restLoaded : Chain.loadFrom invocation rest between with ⟨restNext, _, _⟩
        rw [loadFrom_of_miss asked, restLoaded] at loaded
        cases loaded
        obtain ⟨restStays, spares, restCurrent⟩ :=
          inductionHypothesis recallBetween restApart restLoaded
        refine ⟨.cons (spares layer last _ headApart stays) restStays, spares.cons confines, ?_⟩
        rw [answeredAt_of_miss asked]
        exact restCurrent
      · rw [loadFrom_of_stop asked rfl] at loaded
        cases loaded
        refine ⟨.cons stays recallBetween, spares_of_confines confines, ?_⟩
        intro found hit
        exact ⟨_, answeredAt_of_stop asked rfl, current found hit⟩

/-- A save is recalled by every tier as the last one under its key text. -/
theorem RecallAll.saveTo
    (recalled : RecallAll surroundings.files last layers tiers)
    (apart : layers.Pairwise Layer.Apart)
    (fits : ∀ layer ∈ layers, layer.Fits invocation.keyText)
    {cached : Cached}
    {stored : Bool}
    (saved : saveTo invocation cached tiers surroundings = (next, later, stored)) :
    RecallAll later.files (Function.update last invocation.keyText (some cached)) layers next ∧
      Spares layers surroundings.files later.files := by
  induction layers generalizing tiers surroundings next stored with
  | nil =>
      cases recalled
      cases saved
      exact ⟨.nil, spares_nil _⟩
  | cons layer layers inductionHypothesis =>
      obtain - | ⟨recalls, recallRest⟩ := recalled
      next counted rest =>
      obtain ⟨headApart, restApart⟩ := List.pairwise_cons.1 apart
      obtain ⟨headFits, restFits⟩ := List.forall_mem_cons.1 fits
      rcases asked : counted.save (CacheTier.keyFor counted.tier invocation) cached surroundings with
        ⟨changed, between, reply⟩
      rcases restSaved : Chain.saveTo invocation cached rest between with ⟨restNext, _, _⟩
      rw [saveTo_of_save asked restSaved] at saved
      cases saved
      obtain ⟨stays, confines⟩ := recalls.save headFits (Counted.save_tier asked)
      have recallBetween := RecallAll.of_confines recallRest headApart confines
      obtain ⟨restStays, spares⟩ := inductionHypothesis recallBetween restApart restFits restSaved
      exact ⟨.cons (spares layer _ _ headApart stays) restStays, spares.cons confines⟩

end Tiers

/-! ## Runs -/

section Runs

variable {layers : List Layer} {last : LastSaves} {chain next : Chain StandardTier}
  {invocation : Invocation} {surroundings later : Surroundings}

/-- A load leaves every tier with what was saved last, and answers with nothing else. -/
theorem RecallAll.load
    (recalled : RecallAll surroundings.files last layers chain.tiers)
    (apart : layers.Pairwise Layer.Apart)
    {answer : Except Crash (Option Cached)}
    (loaded : chain.load invocation surroundings = (next, later, answer)) :
    RecallAll later.files last layers next.tiers ∧
      ∀ found, answer = .ok (some found) → ∃ reading,
        answeredAt invocation chain.tiers surroundings = some reading ∧
          found.IsCurrent last invocation.keyText reading := by
  rw [Chain.load] at loaded
  rcases asked : Chain.loadFrom invocation chain.tiers surroundings with ⟨tiers, _, _⟩
  rw [asked] at loaded
  cases loaded
  obtain ⟨stays, -, current⟩ := recalled.loadFrom apart asked
  rw [tiers_countLoad]
  exact ⟨stays, current⟩

/-- After a save, every tier recalls the new document under its key text. -/
theorem RecallAll.save
    (recalled : RecallAll surroundings.files last layers chain.tiers)
    (apart : layers.Pairwise Layer.Apart)
    (fits : ∀ layer ∈ layers, layer.Fits invocation.keyText)
    {cached : Cached}
    {stored : Bool}
    (saved : chain.save invocation cached surroundings = (next, later, stored)) :
    RecallAll later.files (Function.update last invocation.keyText (some cached)) layers
      next.tiers := by
  rw [Chain.save] at saved
  rcases asked : Chain.saveTo invocation cached chain.tiers surroundings with ⟨tiers, _, _⟩
  rw [asked] at saved
  cases saved
  obtain ⟨stays, -⟩ := recalled.saveTo apart fits asked
  unfold countSave
  split <;> exact stays

/-- Every layer can hold what is saved. -/
def AllFit (layers : List Layer) (operations : List Operation) : Prop :=
  ∀ invocation cached, .save invocation cached ∈ operations →
    ∀ layer ∈ layers, layer.Fits invocation.keyText

/-- After an operation every tier recalls what it saved, and what was saved before. -/
theorem RecallAll.after
    (recalled : RecallAll surroundings.files last layers chain.tiers)
    (apart : layers.Pairwise Layer.Apart)
    {operation : Operation}
    (fit : AllFit layers [operation]) :
    RecallAll (chain.after surroundings operation).2.files
      (fun text => (operation.saved? text).or (last text)) layers
      (chain.after surroundings operation).1.tiers := by
  cases operation with
  | load invocation => exact (recalled.load apart rfl).1
  | save invocation cached =>
      rcases done : chain.save invocation cached surroundings with ⟨next, later, stored⟩
      have sameLast : (fun text => ((Operation.save invocation cached).saved? text).or (last text)) =
          Function.update last invocation.keyText (some cached) := by
        funext text
        rw [Operation.saved?]
        split
        · next same => rw [← same, Function.update_self, Option.some_or]
        · next differ => rw [Function.update_of_ne (Ne.symm differ), Option.none_or]
      change RecallAll (chain.save invocation cached surroundings).2.1.files _ layers
        (chain.save invocation cached surroundings).1.tiers
      rw [done, sameLast]
      exact recalled.save apart (fit invocation cached (List.mem_singleton_self _)) done

/-- Over a run, what the tiers recall is the last save of the run, or of the time before it.
-/
theorem RecallAll.afterAll
    (recalled : RecallAll surroundings.files last layers chain.tiers)
    (apart : layers.Pairwise Layer.Apart)
    {operations : List Operation}
    (fit : AllFit layers operations) :
    RecallAll (chain.afterAll surroundings operations).2.files
      (fun text => (lastSaved operations text).or (last text)) layers
      (chain.afterAll surroundings operations).1.tiers := by
  induction operations generalizing chain surroundings last with
  | nil => exact recalled
  | cons operation rest inductionHypothesis =>
      have first : AllFit layers [operation] := by
        intro invocation cached listed
        rw [List.mem_singleton] at listed
        exact fit invocation cached (listed ▸ List.mem_cons_self)
      have others : AllFit layers rest :=
        fun invocation cached listed => fit invocation cached (List.mem_cons_of_mem _ listed)
      have stays := inductionHypothesis (recalled.after apart first) others
      simp only [lastSaved_cons, Option.or_assoc]
      exact stays

/-- A chain of vacant layers recalls what was saved last in a run. -/
theorem recallAll_run
    (vacant : ∀ layer ∈ layers, layer.Vacant surroundings.files)
    (apart : layers.Pairwise Layer.Apart)
    {operations : List Operation}
    (fit : AllFit layers operations)
    (ran : (ofTiers (layers.map Layer.tier)).afterAll surroundings operations = (chain, later)) :
    RecallAll later.files (lastSaved operations) layers chain.tiers := by
  have start : RecallAll surroundings.files (fun _ => none) layers
      (ofTiers (layers.map Layer.tier)).tiers := by
    clear apart fit ran
    induction layers with
    | nil => exact .nil
    | cons layer layers inductionHypothesis =>
        obtain ⟨headVacant, restVacant⟩ := List.forall_mem_cons.1 vacant
        exact .cons (Layer.recalls_tier headVacant) (inductionHypothesis restVacant)
  have recalled := start.afterAll apart fit
  rw [ran] at recalled
  simp only [Option.or_none] at recalled
  exact recalled

/-- Whatever a chain of tiers in memory and in directories apart from each other was asked
before, a load that finds a document finds the one saved last under the key text, except
that it may count as new, and the document is fresh when the tier that answers reads the
clock. -/
theorem hit_is_last_save
    (layers : List Layer)
    (surroundings : Surroundings)
    (vacant : ∀ layer ∈ layers, layer.Vacant surroundings.files)
    (apart : layers.Pairwise Layer.Apart)
    (operations : List Operation)
    (fit : AllFit layers operations)
    (invocation : Invocation)
    {reached : Surroundings}
    (ran : (ofTiers (layers.map Layer.tier)).afterAll surroundings operations = (chain, reached))
    {found : Cached}
    (loaded : chain.load invocation reached = (next, later, .ok (some found))) :
    ∃ saved reading, lastSaved operations invocation.keyText = some saved ∧
      (found = saved ∨ found = saved.asNew) ∧
      answeredAt invocation chain.tiers reached = some reading ∧
      found.tag.expiredAt reading = false := by
  have recalled := recallAll_run vacant apart fit ran
  obtain ⟨-, current⟩ := recalled.load apart loaded
  obtain ⟨reading, answered, saved, savedLast, same, fresh⟩ := current found rfl
  exact ⟨saved, reading, savedLast, same, answered, fresh⟩

end Runs

/-! ## A chain of three tiers -/

open DiskTier (Site)

/-- Two directories with nothing below them, and a clock that stands still. -/
def twoDirectories : Surroundings where
  files := (FileTree.empty.setNode ["near"] .directory).setNode ["far"] .directory
  readings _ := 100

/-- All key texts have the same digest here. -/
def siteOfOneFile : Site where
  root := "near"
  home := ["near"]
  digest _ := String.ofList (List.replicate 64 '0')
  hasRoom := by decide +kernel
  isDigest _ := by
    constructor
    · rw [String.toList_ofList]
      rfl
    · intro character listed
      rw [String.toList_ofList] at listed
      rw [List.eq_of_mem_replicate listed]
      decide

def siteOfManyFiles : Site where
  root := "far"
  home := ["far"]
  digest := Sha256.hexDigest
  hasRoom := by decide +kernel
  isDigest := Sha256.isDigest_hexDigest

def threeLayers : List Layer :=
  [.memory { pools := 1, poolSize := 1 }, .disk siteOfOneFile .zero, .disk siteOfManyFiles .zero]

theorem vacant_threeLayers : ∀ layer ∈ threeLayers, layer.Vacant twoDirectories.files := by
  have empty : ∀ name first rest,
      twoDirectories.files.node? ([name] ++ first :: rest) = none := by
    intro name first rest
    rw [twoDirectories, FileTree.node?_setNode _ (by decide), if_neg (by simp),
      FileTree.node?_setNode _ (by decide), if_neg (by simp)]
    rfl
  intro layer listed
  simp only [threeLayers, List.mem_cons, List.not_mem_nil, or_false] at listed
  obtain rfl | rfl | rfl := listed
  · trivial
  · exact ⟨⟨by decide +kernel, by decide +kernel⟩, empty "near"⟩
  · exact ⟨⟨by decide +kernel, by decide +kernel⟩, empty "far"⟩

theorem apart_threeLayers : threeLayers.Pairwise Layer.Apart := by
  refine .cons ?_ (.cons ?_ (.cons nofun .nil))
  · intro other listed
    cases other <;> trivial
  · intro other listed
    rw [List.mem_singleton] at listed
    subst listed
    exact ⟨by decide, by decide⟩

def savedLeaf : Cached := ⟨{ modified := false, expireTime := 200 }, ⟨"<stored/>", by decide⟩⟩

/-- The chain after a save. -/
def savedOnce : Chain StandardTier × Surroundings :=
  (ofTiers (threeLayers.map Layer.tier)).afterAll twoDirectories
    [.save { method := "page" } savedLeaf]

/-- A save in front of two directories is what the next load finds. -/
theorem hit_is_last_save_once :
    (savedOnce.1.load { method := "page" } savedOnce.2).2.2 = .ok (some savedLeaf) ∧
    ∃ saved reading,
      lastSaved [.save { method := "page" } savedLeaf]
        ({ method := "page" } : Invocation).keyText = some saved ∧
      (savedLeaf = saved ∨ savedLeaf = saved.asNew) ∧
      answeredAt { method := "page" } savedOnce.1.tiers savedOnce.2 = some reading ∧
      savedLeaf.tag.expiredAt reading = false := by
  have found : (savedOnce.1.load { method := "page" } savedOnce.2).2.2 = .ok (some savedLeaf) := by
    decide +kernel
  have fit : AllFit threeLayers [.save { method := "page" } savedLeaf] := by
    intro invocation cached listed layer _
    rw [List.mem_singleton, Operation.save.injEq] at listed
    obtain ⟨rfl, -⟩ := listed
    cases layer with
    | memory settings => trivial
    | disk site minimum => exact (by decide : (Text.toBytes "|page").length < UInt32.size)
  rcases loaded : savedOnce.1.load { method := "page" } savedOnce.2 with ⟨next, later, answer⟩
  rw [loaded] at found
  obtain rfl : answer = .ok (some savedLeaf) := found
  have reached : savedOnce = (savedOnce.1, savedOnce.2) := (Prod.eta savedOnce).symm
  exact ⟨rfl, hit_is_last_save threeLayers twoDirectories vacant_threeLayers apart_threeLayers _
    fit { method := "page" } reached loaded⟩

end Chain
end FragmentCache
