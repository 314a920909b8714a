import FragmentCache.Proofs.Tier.Disk.Ledger
import FragmentCache.Proofs.Tier.Disk.Saving
import Mathlib.Logic.Function.Basic

/-!
# Loads of a file that is being saved

A load reads the file at its path and judges what it read; later it removes what is at
the path, or opens it again and writes over its first bytes.  A save may rename a new file
over the path in between.  So a load that has read the file before can remove or mark the
new one without having read it.  Otherwise the new file stays as it was saved until a load
that has read it finds it expired, or due for a refresh.
-/

namespace FragmentCache

namespace DiskTier

namespace Race

/-- What a load does next. -/
inductive Stage where
  | reading
  /-- Remove the file at the path. -/
  | removing
  /-- Open the file at the path for writing. -/
  | opening
  /-- Mark the file that was opened when the path had been bound so often. -/
  | marking (bindings : Nat)
  | finished
  deriving DecidableEq

/-- What happened to the file at the path. -/
inductive Event where
  /-- The save renamed its file over it. -/
  | replaced
  /-- A load read it. -/
  | read (load : Nat) (content : Option Bytes)
  /-- A load removed it. -/
  | removed (load : Nat)
  /-- A load marked it. -/
  | marked (load : Nat)
  deriving DecidableEq

/-- Who takes the next step. -/
inductive Move where
  | save (mishap : Option SaveJob.Mishap)
  | load (number : Nat)
  deriving DecidableEq

/-- What a load does after its verdict. -/
def Stage.after : Except Crash Verdict → Stage
  | .ok .corrupt | .ok .expired => .removing
  | .ok .refresh => .opening
  | .ok .absent | .ok .foreign | .ok (.hit _) | .error _ => .finished

namespace Event

def isRemoval : Event → Bool
  | removed _ => true
  | _ => false

def isMark : Event → Bool
  | marked _ => true
  | _ => false

/-- Whether the path names another file afterwards, or none. -/
def rebinds : Event → Bool
  | replaced | removed _ => true
  | read _ _ | marked _ => false

end Event
end Race

open Race (Stage Event Move)

/-- A save, and any number of loads of the same key. -/
structure Race where
  files : FileTree
  save : SaveJob
  stages : Nat → Race.Stage := fun _ => .reading
  /-- What happened so far. -/
  log : List Race.Event := []

namespace Race

/-- How often the path came to name another file, or none. -/
def bindings (race : Race) : Nat := race.log.countP Event.rebinds

/-- Go on to a stage. -/
def goTo (race : Race) (load : Nat) (stage : Stage) : Race :=
  { race with stages := Function.update race.stages load stage }

def note (race : Race) (event : Event) : Race := { race with log := race.log ++ [event] }

/-- Finish a load that changes the files unless it fails. -/
def finish (race : Race) (load : Nat) (event : Event) : Option FileTree → Race
  | some files => ({ race with files }.note event).goTo load .finished
  | none => race.goTo load .finished

/-- The next step of a load at `now`. -/
def loadStep (race : Race) (text : String) (now : Timestamp) (load : Nat) : Race :=
  match race.stages load with
  | .reading =>
    let content := race.files.read? race.save.path
    (race.note (.read load content)).goTo load (.after (judge text now content))
  | .removing => race.finish load (.removed load) (race.files.removeFile? race.save.path)
  | .opening =>
    race.goTo load
      (if (race.files.read? race.save.path).isSome then .marking race.bindings else .finished)
  | .marking opened =>
    race.finish load (.marked load)
      (if opened = race.bindings then race.files.overwrite? race.save.path 0 markBytes else none)
  | .finished => race

/-- The next step of the save. -/
def saveStep (race : Race) (mishap : Option SaveJob.Mishap) : Race :=
  let (save, files) := race.save.step mishap race.files
  let next := { race with save, files }
  if save.stored && !race.save.stored then next.note .replaced else next

/-- A step of a race for a key text; every load has its own reading of the clock. -/
def step (text : String) (readings : Nat → Timestamp) (race : Race) : Move → Race
  | .save mishap => race.saveStep mishap
  | .load number => race.loadStep text (readings number) number

/-- Take steps in the given order. -/
def run (text : String) (readings : Nat → Timestamp) (race : Race) (moves : List Move) : Race :=
  moves.foldl (step text readings) race

/-- The race of a save of a key with loads of it. -/
def start (tier : DiskTier) (key : Key) (cached : Cached) (now : Timestamp) (number : Nat)
    (files : FileTree) : Race where
  files
  save := SaveJob.new (tier.pathFor key) number (recordBytes key cached now)

variable {text path : String} {readings : Nat → Timestamp} {race after : Race} {load number : Nat}
  {verdict : Verdict} {changed : Option FileTree} {event : Event}

theorem files_finish : (race.finish load event changed).files = changed.getD race.files := by
  cases changed <;> rfl

theorem stages_finish : (race.finish load event changed).stages load = .finished := by
  cases changed <;> exact Function.update_self ..

theorem loadStep_of_finished
    (finished : race.stages load = .finished)
    (now : Timestamp) :
    race.loadStep text now load = race := by
  rw [loadStep, finished]

/-- A load that was judged acts as its verdict says when nobody comes between. -/
theorem act_of_judged
    (stage : race.stages load = .after (.ok verdict))
    (present : verdict = .refresh → (race.files.read? race.save.path).isSome)
    (now : Timestamp) :
    ((race.loadStep text now load).loadStep text now load).files =
        act race.files race.save.path verdict ∧
      ((race.loadStep text now load).loadStep text now load).stages load = .finished := by
  have removing : race.stages load = .removing →
      ((race.loadStep text now load).loadStep text now load).files =
          (race.files.removeFile? race.save.path).getD race.files ∧
        ((race.loadStep text now load).loadStep text now load).stages load = .finished := by
    intro stage
    have stepped : race.loadStep text now load =
        race.finish load (.removed load) (race.files.removeFile? race.save.path) := by
      rw [loadStep, stage]
    rw [stepped, loadStep_of_finished stages_finish]
    exact ⟨files_finish, stages_finish⟩
  cases verdict with
  | corrupt => exact removing stage
  | expired => exact removing stage
  | refresh =>
      have opened : race.loadStep text now load = race.goTo load (.marking race.bindings) := by
        rw [loadStep, stage]
        change race.goTo load (if _ then _ else _) = _
        rw [if_pos (present rfl)]
      have marking : (race.goTo load (.marking race.bindings)).stages load =
          .marking race.bindings := Function.update_self ..
      have unbound : race.bindings = (race.goTo load (.marking race.bindings)).bindings := rfl
      rw [opened, loadStep, marking]
      dsimp only
      rw [if_pos unbound]
      exact ⟨files_finish, stages_finish⟩
  | absent => rw [loadStep_of_finished stage, loadStep_of_finished stage]; exact ⟨rfl, stage⟩
  | foreign => rw [loadStep_of_finished stage, loadStep_of_finished stage]; exact ⟨rfl, stage⟩
  | hit cached => rw [loadStep_of_finished stage, loadStep_of_finished stage]; exact ⟨rfl, stage⟩

/-- The three steps of a load that nobody comes between are a load as a whole. -/
theorem run_load_alone
    (fresh : race.stages load = .reading)
    (judged : judge text (readings load) (race.files.read? race.save.path) = .ok verdict) :
    (race.run text readings [.load load, .load load, .load load]).files =
        act race.files race.save.path verdict ∧
      (race.run text readings [.load load, .load load, .load load]).stages load = .finished := by
  let first := (race.note (.read load (race.files.read? race.save.path))).goTo load
    (.after (.ok verdict))
  have stepped : race.loadStep text (readings load) load = first := by
    rw [loadStep, fresh]
    dsimp only
    rw [judged]
  have stage : first.stages load = .after (.ok verdict) := Function.update_self ..
  have present : verdict = .refresh → (first.files.read? first.save.path).isSome := by
    rintro rfl
    cases read : race.files.read? race.save.path with
    | none => rw [read] at judged; cases judged
    | some content => exact congrArg Option.isSome read
  simp only [run, List.foldl_cons, List.foldl_nil, step, stepped]
  exact act_of_judged stage present (readings load)

/-! ## What loads act upon -/

/-- A load found this in what it read. -/
def Found (text : String) (readings : Nat → Timestamp) (log : List Event) (load : Nat)
    (verdict : Verdict) : Prop :=
  ∃ content, .read load content ∈ log ∧ judge text (readings load) content = .ok verdict

/-- A load goes on as what it found asks for. -/
def Stage.Justified (found : Verdict → Prop) : Stage → Prop
  | .removing => found .expired ∨ found .corrupt
  | .opening | .marking _ => found .refresh
  | .reading | .finished => True

/-- A load acted as what it found asked for. -/
def Event.Justified (found : Nat → Verdict → Prop) : Event → Prop
  | .removed load => found load .expired ∨ found load .corrupt
  | .marked load => found load .refresh
  | .replaced | .read _ _ => True

/-- Every load goes on and acts as what it found in what it read asks for. -/
structure Founded (text : String) (readings : Nat → Timestamp) (race : Race) : Prop where
  stages : ∀ load, (race.stages load).Justified (Found text readings race.log load)
  events : ∀ event ∈ race.log, event.Justified (Found text readings race.log)

/-- What a load found stays in the log. -/
theorem Found.append
    {log : List Event}
    (found : Found text readings log load verdict)
    (news : List Event) :
    Found text readings (log ++ news) load verdict := by
  obtain ⟨content, read, judged⟩ := found
  exact ⟨content, List.mem_append_left news read, judged⟩

theorem Stage.Justified.mono
    {found more : Verdict → Prop}
    {stage : Stage}
    (justified : stage.Justified found)
    (atLeast : ∀ verdict, found verdict → more verdict) :
    stage.Justified more := by
  cases stage with
  | removing => exact justified.imp (atLeast _) (atLeast _)
  | opening => exact atLeast _ justified
  | marking bindings => exact atLeast _ justified
  | reading => trivial
  | finished => trivial

theorem Event.Justified.mono
    {found more : Nat → Verdict → Prop}
    (justified : event.Justified found)
    (atLeast : ∀ load verdict, found load verdict → more load verdict) :
    event.Justified more := by
  cases event with
  | removed load => exact justified.imp (atLeast _ _) (atLeast _ _)
  | marked load => exact atLeast _ _ justified
  | replaced => trivial
  | read load content => trivial

/-- A judged load goes on as its verdict asks for. -/
theorem Stage.justified_after
    {judged : Except Crash Verdict}
    {found : Verdict → Prop}
    (isFound : ∀ verdict, judged = .ok verdict → found verdict) :
    (Stage.after judged).Justified found := by
  cases judged with
  | error crash => trivial
  | ok verdict =>
      cases verdict with
      | corrupt => exact .inr (isFound _ rfl)
      | expired => exact .inl (isFound _ rfl)
      | refresh => exact isFound _ rfl
      | absent => trivial
      | foreign => trivial
      | hit cached => trivial

theorem Founded.advance
    (founded : Founded text readings race)
    {stage : Stage}
    {news : List Event}
    (log : after.log = race.log ++ news)
    (stages : after.stages = Function.update race.stages load stage)
    (stageJustified : stage.Justified (Found text readings after.log load))
    (newsJustified : ∀ event ∈ news, event.Justified (Found text readings after.log)) :
    Founded text readings after where
  stages other := by
    rw [stages]
    by_cases same : other = load
    · subst same
      rw [Function.update_self]
      exact stageJustified
    · rw [Function.update_of_ne same, log]
      exact (founded.stages other).mono fun _ found => found.append news
  events event listed := by
    rw [log, List.mem_append] at listed
    obtain earlier | new := listed
    · rw [log]
      exact (founded.events event earlier).mono fun _ _ found => found.append news
    · exact newsJustified event new

theorem Founded.finish
    (founded : Founded text readings race)
    (justified : event.Justified (Found text readings race.log)) :
    Founded text readings (race.finish load event changed) := by
  cases changed with
  | none => exact founded.advance (List.append_nil _).symm rfl trivial nofun
  | some files =>
      refine founded.advance rfl rfl trivial fun other listed => ?_
      rw [List.mem_singleton.1 listed]
      exact justified.mono fun _ _ found => found.append [event]

theorem Founded.loadStep
    (founded : Founded text readings race)
    (load : Nat) :
    Founded text readings (race.loadStep text (readings load) load) := by
  have justified := founded.stages load
  unfold Race.loadStep
  split
  · refine founded.advance rfl rfl (Stage.justified_after fun verdict judged => ?_) ?_
    · exact ⟨_, List.mem_append_right _ List.mem_cons_self, judged⟩
    · rintro event listed
      rw [List.mem_singleton.1 listed]
      trivial
  · next stage =>
      rw [stage] at justified
      exact founded.finish justified
  · next stage =>
      rw [stage] at justified
      refine founded.advance (List.append_nil _).symm rfl ?_ nofun
      split
      · exact justified
      · trivial
  · next opened stage =>
      rw [stage] at justified
      exact founded.finish justified
  · exact founded

theorem Founded.saveStep
    (founded : Founded text readings race)
    (mishap : Option SaveJob.Mishap) :
    Founded text readings (race.saveStep mishap) := by
  unfold Race.saveStep
  dsimp only
  split
  · refine ⟨fun load => (founded.stages load).mono fun _ found => found.append _, ?_⟩
    intro event listed
    obtain earlier | new := List.mem_append.1 listed
    · exact (founded.events event earlier).mono fun _ _ found => found.append _
    · rw [List.mem_singleton.1 new]
      trivial
  · exact ⟨founded.stages, founded.events⟩

/-! ## The file at the path -/

/-- What a step of a load does to the files, and what is noted of it. -/
inductive Acted (race : Race) (load : Nat) : Race → Prop
  | idle (stages : Nat → Stage) : Acted race load { race with stages }
  | read (stages : Nat → Stage) :
      Acted race load
        ({ race with stages }.note (.read load (race.files.read? race.save.path)))
  | removed (stages : Nat → Stage) (files : FileTree)
      (removed : race.files.removeFile? race.save.path = some files) :
      Acted race load ({ race with stages, files }.note (.removed load))
  | marked (stages : Nat → Stage) (files : FileTree)
      (overwritten : race.files.overwrite? race.save.path 0 markBytes = some files) :
      Acted race load ({ race with stages, files }.note (.marked load))

/-- A step of a load is one of its acts. -/
theorem acted_loadStep (race : Race) (text : String) (now : Timestamp) (load : Nat) :
    Acted race load (race.loadStep text now load) := by
  unfold loadStep
  split
  · exact .read _
  · cases removed : race.files.removeFile? race.save.path with
    | none => exact .idle _
    | some files => exact .removed _ files removed
  · exact .idle _
  · next opened _ =>
      split
      · cases overwritten : race.files.overwrite? race.save.path 0 markBytes with
        | none => exact .idle _
        | some files => exact .marked _ files overwritten
      · exact .idle _
  · exact .idle _

variable {record : DiskRecord} {before events : List Event}

/-- The bytes at the path after a record was saved there and this happened. -/
def standing (record : DiskRecord) (events : List Event) : Option Bytes :=
  if events.any Event.isRemoval then none
  else some { record with prefetchMarked := events.any Event.isMark }.encode

/-- A record was saved at a path, and this happened before and after. -/
structure Saved (path : String) (record : DiskRecord) (before events : List Event)
    (race : Race) : Prop where
  log : race.log = before ++ .replaced :: events
  once : .replaced ∉ before ∧ .replaced ∉ events
  content : ∃ place, race.files.fileEntry? path = some place ∧
    race.files.contentAt? place = standing record events
  /-- Who read since then read the record. -/
  reads : ∀ load content, .read load content ∈ events →
    content = none ∨ ∃ mark, content = some { record with prefetchMarked := mark }.encode

/-- A race in which a record is being saved, or was. -/
structure Underway (path : String) (number : Nat) (record : DiskRecord) (race : Race) : Prop where
  path_eq : race.save.path = path
  temporary : race.save.temporary = SaveJob.temporaryPath path number
  bytes : race.save.bytes = record.encode
  /-- The temporary file holds the record before it is renamed. -/
  written : race.save.stage = .syncing ∨ race.save.stage = .renaming →
    ∃ place, race.files.fileEntry? race.save.temporary = some place ∧
      race.files.contentAt? place = some record.encode
  waiting : race.save.stored = false → .replaced ∉ race.log
  saved : race.save.stored = true → ∃ before events, Saved path record before events race

/-- A record is gone, or stands with one of its two marks. -/
theorem standing_cases (record : DiskRecord) (events : List Event) :
    standing record events = none ∨
      ∃ mark, standing record events = some { record with prefetchMarked := mark }.encode := by
  unfold standing
  split
  · exact .inl rfl
  · exact .inr ⟨_, rfl⟩

theorem standing_append_read (load : Nat) (content : Option Bytes) :
    standing record (events ++ [.read load content]) = standing record events := by
  simp [standing, Event.isRemoval, Event.isMark]

theorem standing_append_removed (load : Nat) :
    standing record (events ++ [.removed load]) = none := by
  simp [standing, Event.isRemoval]

/-- A mark on what is there is a mark of the record. -/
theorem standing_append_marked
    {content : Bytes}
    (present : standing record events = some content)
    (load : Nat) :
    standing record (events ++ [.marked load]) =
      some (FileTree.overwrittenAt 0 markBytes content) := by
  unfold standing at present ⊢
  split at present
  · cases present
  · next stays =>
      cases present
      rw [overwrittenAt_markBytes]
      simp only [List.any_append, List.any_cons, List.any_nil, Event.isRemoval, Event.isMark,
        Bool.or_false, Bool.or_true, if_neg stays]

/-- What happens after a save is noted behind it, if the file shows it. -/
theorem Saved.concat
    {event : Event}
    (saved : Saved path record before events race)
    (log : after.log = race.log ++ [event])
    (differs : event ≠ .replaced)
    (content : ∃ place, after.files.fileEntry? path = some place ∧
      after.files.contentAt? place = standing record (events ++ [event]))
    (news : ∀ load content, event = .read load content → content = none ∨
      ∃ mark, content = some { record with prefetchMarked := mark }.encode) :
    Saved path record before (events ++ [event]) after where
  log := by rw [log, saved.log, List.append_assoc, List.cons_append]
  once := by
    refine ⟨saved.once.1, fun listed => ?_⟩
    obtain earlier | new := List.mem_append.1 listed
    · exact saved.once.2 earlier
    · exact differs (List.mem_singleton.1 new).symm
  content := content
  reads load content listed := by
    obtain earlier | new := List.mem_append.1 listed
    · exact saved.reads load content earlier
    · exact news load content (List.mem_singleton.1 new).symm

/-- What a load does after the save is noted, and shows in the file. -/
theorem Saved.acted
    (saved : Saved path record before events race)
    (samePath : race.save.path = path)
    (acted : Acted race load after) :
    ∃ more, Saved path record before more after := by
  obtain ⟨place, found, content⟩ := saved.content
  cases acted with
  | idle stages => exact ⟨events, saved.log, saved.once, saved.content, saved.reads⟩
  | read stages =>
      refine ⟨_, saved.concat rfl nofun ⟨place, found, ?_⟩ ?_⟩
      · rw [standing_append_read]
        exact content
      · rintro _ _ ⟨⟩
        rw [samePath, FileTree.read?_eq_contentAt? (FileTree.place_of_fileEntry found), content]
        exact standing_cases record events
  | removed stages files removed =>
      rw [samePath] at removed
      have keeps := FileTree.KeepsDirectories.removeFile? removed
      obtain ⟨other, _, otherFound, -, rfl⟩ := FileTree.removeFile?_eq_some_iff.1 removed
      obtain rfl : place = other := Option.some.inj (found.symm.trans otherFound)
      refine ⟨_, saved.concat rfl nofun ⟨place, keeps.fileEntry found, ?_⟩ nofun⟩
      rw [standing_append_removed]
      exact (FileTree.contentAt?_eraseNode _ (FileTree.ne_root_of_fileEntry found) _).trans
        (if_pos rfl)
  | marked stages files overwritten =>
      rw [samePath] at overwritten
      have keeps := FileTree.KeepsDirectories.overwrite? overwritten
      obtain ⟨other, bytes, otherFound, present, rfl⟩ :=
        FileTree.overwrite?_eq_some_iff.1 overwritten
      obtain rfl : place = other := Option.some.inj (found.symm.trans otherFound)
      refine ⟨_, saved.concat rfl nofun ⟨place, keeps.fileEntry found, ?_⟩ nofun⟩
      rw [standing_append_marked (content.symm.trans present)]
      exact (FileTree.contentAt?_setNode _ (FileTree.ne_root_of_fileEntry found) _ _).trans
        (if_pos rfl)

/-- A load leaves the temporary file of the save alone. -/
theorem Acted.temporary_stays
    (acted : Acted race load after)
    {place : FileTree.Place}
    {content : Bytes}
    (found : race.files.fileEntry? (SaveJob.temporaryPath race.save.path number) = some place)
    (present : race.files.contentAt? place = some content) :
    after.files.fileEntry? (SaveJob.temporaryPath race.save.path number) = some place ∧
      after.files.contentAt? place = some content := by
  have differs : ∀ {other}, race.files.fileEntry? race.save.path = some other → place ≠ other := by
    intro other otherFound
    exact place_ne_of_temporaryPath (FileTree.place_of_fileEntry otherFound) found
  cases acted with
  | idle stages => exact ⟨found, present⟩
  | read stages => exact ⟨found, present⟩
  | removed stages files removed =>
      have keeps := FileTree.KeepsDirectories.removeFile? removed
      obtain ⟨other, _, otherFound, -, rfl⟩ := FileTree.removeFile?_eq_some_iff.1 removed
      refine ⟨keeps.fileEntry found, Eq.trans ?_ present⟩
      exact (FileTree.contentAt?_eraseNode _ (FileTree.ne_root_of_fileEntry otherFound) _).trans
        (if_neg (differs otherFound))
  | marked stages files overwritten =>
      have keeps := FileTree.KeepsDirectories.overwrite? overwritten
      obtain ⟨other, _, otherFound, -, rfl⟩ := FileTree.overwrite?_eq_some_iff.1 overwritten
      refine ⟨keeps.fileEntry found, Eq.trans ?_ present⟩
      exact (FileTree.contentAt?_setNode _ (FileTree.ne_root_of_fileEntry otherFound) _ _).trans
        (if_neg (differs otherFound))

theorem Acted.save_eq (acted : Acted race load after) : after.save = race.save := by
  cases acted <;> rfl

/-- No load puts a record in place. -/
theorem Acted.replaced_of_mem
    (acted : Acted race load after)
    (listed : .replaced ∈ after.log) :
    .replaced ∈ race.log := by
  have earlier : ∀ event, event ≠ .replaced → .replaced ∈ race.log ++ [event] →
      .replaced ∈ race.log := by
    intro event differs listed
    obtain earlier | new := List.mem_append.1 listed
    · exact earlier
    · exact absurd (List.mem_singleton.1 new).symm differs
  cases acted with
  | idle stages => exact listed
  | read stages => exact earlier (.read load (race.files.read? race.save.path)) nofun listed
  | removed stages files removed => exact earlier (.removed load) nofun listed
  | marked stages files overwritten => exact earlier (.marked load) nofun listed

/-- Whatever a load does, the save is as far as it was. -/
theorem Underway.acted
    (underway : Underway path number record race)
    (acted : Acted race load after) :
    Underway path number record after where
  path_eq := by rw [acted.save_eq, underway.path_eq]
  temporary := by rw [acted.save_eq, underway.temporary]
  bytes := by rw [acted.save_eq, underway.bytes]
  written stage := by
    rw [acted.save_eq] at stage ⊢
    obtain ⟨place, found, present⟩ := underway.written stage
    rw [underway.temporary, ← underway.path_eq] at found ⊢
    exact ⟨place, acted.temporary_stays found present⟩
  waiting unstored listed := by
    rw [acted.save_eq] at unstored
    exact underway.waiting unstored (acted.replaced_of_mem listed)
  saved stored := by
    rw [acted.save_eq] at stored
    obtain ⟨before, events, saved⟩ := underway.saved stored
    obtain ⟨more, savedAfter⟩ := saved.acted underway.path_eq acted
    exact ⟨before, more, savedAfter⟩

/-- The rename puts the record at the path. -/
theorem Underway.replace
    (underway : Underway path number record race)
    (unmarked : record.prefetchMarked = false)
    (unstored : race.save.stored = false)
    (stage : race.save.stage = .renaming)
    {files : FileTree}
    (renamed : race.files.rename? race.save.temporary race.save.path = some files)
    (save : SaveJob) :
    Saved path record race.log [] ({ race with save, files }.note .replaced) := by
  have holds : race.save.Holds race.files race.save.bytes := by
    rw [underway.bytes]
    exact underway.written (.inr stage)
  have temporary : race.save.temporary = SaveJob.temporaryPath race.save.path number := by
    rw [underway.path_eq]
    exact underway.temporary
  obtain ⟨source, place, -, differ, found, content⟩ := holds.rename temporary renamed
  refine ⟨rfl, ⟨underway.waiting unstored, nofun⟩, ⟨place, ?_, ?_⟩, nofun⟩
  · rw [← underway.path_eq]
    exact found
  · have same : { record with prefetchMarked := false } = record := by
      rw [← unmarked]
    have stands : standing record [] = some record.encode := congrArg (some ∘ DiskRecord.encode) same
    rw [stands, ← underway.bytes]
    exact (content place).trans (by rw [if_neg differ.symm, if_pos rfl])

theorem saveStep_of_stored
    (stored : race.save.stored = true)
    (mishap : Option SaveJob.Mishap) :
    race.saveStep mishap = race := by
  have finished : race.save.stage = .finished true := by simpa [SaveJob.stored] using stored
  rw [Race.saveStep, SaveJob.step_of_finished finished]
  dsimp only
  rw [stored]
  rfl

/-- What the temporary file holds after a step of the save. -/
theorem Underway.written_of_step
    (underway : Underway path number record race)
    {stage : SaveJob.Stage}
    {files : FileTree}
    (stepTo : race.save.StepTo race.files stage files)
    (reached : stage = .syncing ∨ stage = .renaming) :
    ∃ place, files.fileEntry? race.save.temporary = some place ∧
      files.contentAt? place = some record.encode := by
  obtain syncing | isRenaming := reached
  · rw [← underway.bytes]
    exact SaveJob.holds_of_write? (stepTo.written syncing)
  · obtain ⟨syncing, rfl⟩ := stepTo.synced isRenaming
    exact underway.written (.inl syncing)

/-- A step of the save takes it further. -/
theorem Underway.saveStep
    (underway : Underway path number record race)
    (unmarked : record.prefetchMarked = false)
    (mishap : Option SaveJob.Mishap) :
    Underway path number record (race.saveStep mishap) := by
  cases stored : race.save.stored with
  | true =>
      rw [saveStep_of_stored stored]
      exact underway
  | false =>
      obtain ⟨next, files, stepped⟩ : ∃ next files, race.save.step mishap race.files = (next, files) :=
        ⟨_, _, rfl⟩
      obtain ⟨stage, rfl, stepTo⟩ := SaveJob.stepTo_of_step stepped
      have written := underway.written_of_step stepTo
      rw [Race.saveStep, stepped]
      dsimp only
      rw [stored, Bool.not_false, Bool.and_true]
      split
      · next stores =>
          have finished : stage = .finished true := by simpa [SaveJob.stored] using stores
          refine ⟨underway.path_eq, underway.temporary, underway.bytes, written, ?_, fun _ => ?_⟩
          · intro unstored
            exact absurd (stores.symm.trans unstored) nofun
          · obtain ⟨before, -⟩ | ⟨stageBefore, renamed⟩ := stepTo.renamed finished
            · rw [SaveJob.stored, before] at stored
              cases stored
            · exact ⟨_, _, underway.replace unmarked stored stageBefore renamed _⟩
      · next notStores =>
          exact ⟨underway.path_eq, underway.temporary, underway.bytes, written,
            fun _ => underway.waiting stored, fun stores => absurd stores notStores⟩

/-! ## Runs -/

theorem underway_start (tier : DiskTier) (key : Key) (cached : Cached) (now : Timestamp)
    (number : Nat) (files : FileTree) :
    Underway (tier.pathFor key) number (Shelf.Item.record { cached, storedTime := now } key.text)
      (start tier key cached now number files) where
  path_eq := rfl
  temporary := rfl
  bytes := rfl
  written reached := reached.elim nofun nofun
  waiting := nofun
  saved := nofun

theorem founded_start (tier : DiskTier) (key : Key) (cached : Cached) (now : Timestamp)
    (number : Nat) (files : FileTree) :
    Founded key.text readings (start tier key cached now number files) where
  stages _ := trivial
  events := nofun

/-- The save stays underway under any moves. -/
theorem underway_run
    (underway : Underway path number record race)
    (unmarked : record.prefetchMarked = false)
    (moves : List Move) :
    Underway path number record (race.run text readings moves) := by
  induction moves generalizing race with
  | nil => exact underway
  | cons move rest inductionHypothesis =>
      refine inductionHypothesis ?_
      cases move with
      | save mishap => exact underway.saveStep unmarked mishap
      | load number => exact underway.acted (acted_loadStep race text (readings number) number)

/-- A race stays well-founded under any moves. -/
theorem founded_run
    (founded : Founded text readings race)
    (moves : List Move) :
    Founded text readings (race.run text readings moves) := by
  induction moves generalizing race with
  | nil => exact founded
  | cons move rest inductionHypothesis =>
      refine inductionHypothesis ?_
      cases move with
      | save mishap => exact founded.saveStep mishap
      | load number => exact founded.loadStep number

/-- The bytes that a save stores, or that are left of them after a mark. -/
def savedBytes (key : Key) (cached : Cached) (now : Timestamp) (mark : Bool) : Bytes :=
  (Shelf.Item.record { cached, storedTime := now, prefetchMarked := mark } key.text).encode

variable {key : Key} {cached : Cached} {stored now : Timestamp} {mark : Bool}

/-- A saved record is judged as a fresh, an expired or a due one, but never as corrupt. -/
theorem judge_savedBytes_cases
    (short : (Text.toBytes key.text).length < UInt32.size)
    (judged : judge key.text now (some (savedBytes key cached stored mark)) = .ok verdict) :
    (verdict = .expired ∧ cached.tag.expiredAt now = true) ∨
    (verdict = .refresh ∧ mark = false ∧ cached.tag.prefetchDueAt stored now = .ok true) ∨
    verdict = .hit cached.asNew := by
  let item : Shelf.Item := { cached, storedTime := stored, prefetchMarked := mark }
  have answered := (judge_stored short (some item) now).symm.trans judged
  cases asked : Ledger.ask (some item) now with
  | error crash => rw [asked] at answered; cases answered
  | ok kept =>
      obtain ⟨next, answer⟩ := kept
      rw [asked] at answered
      obtain rfl : Verdict.of answer = verdict := Except.ok.inj answered
      obtain ⟨same, -, -⟩ | ⟨_, same, expired, -, rfl⟩ | ⟨_, same, -, due, -, rfl⟩ |
        ⟨_, same, -, -, -, rfl⟩ := Ledger.ask_cases asked
      · cases same
      · cases same
        exact .inl ⟨rfl, expired⟩
      · cases same
        cases mark with
        | true => cases due
        | false => exact .inr (.inl ⟨rfl, rfl, due⟩)
      · cases same
        exact .inr (.inr rfl)

/-- What a load found in what it read was there before the save replaced it, or it is
what the record says. -/
theorem Saved.found_cases
    {before events : List Event}
    (saved : Saved path (Shelf.Item.record { cached, storedTime := stored } key.text) before events
      race)
    (found : Found key.text readings race.log load verdict) :
    Found key.text readings before load verdict ∨ verdict = .absent ∨
      ∃ mark, .read load (some (savedBytes key cached stored mark)) ∈ events ∧
        judge key.text (readings load) (some (savedBytes key cached stored mark)) = .ok verdict := by
  obtain ⟨content, read, judged⟩ := found
  rw [saved.log] at read
  obtain earlier | since := List.mem_append.1 read
  · exact .inl ⟨content, earlier, judged⟩
  · obtain rewritten | since := List.mem_cons.1 since
    · cases rewritten
    · obtain rfl | ⟨mark, rfl⟩ := saved.reads load content since
      · exact .inr (.inl (Except.ok.inj judged).symm)
      · exact .inr (.inr ⟨mark, since, judged⟩)

/-- A load that removes what is at the path did so because of what was there before the
save replaced it, or it read the record after its end. -/
theorem Saved.expired_of_found
    {before events : List Event}
    (saved : Saved path (Shelf.Item.record { cached, storedTime := stored } key.text) before events
      race)
    (short : (Text.toBytes key.text).length < UInt32.size)
    (removes : verdict = .expired ∨ verdict = .corrupt)
    (found : Found key.text readings race.log load verdict) :
    Found key.text readings before load verdict ∨
      cached.tag.expiredAt (readings load) = true ∧
        ∃ mark, .read load (some (savedBytes key cached stored mark)) ∈ events := by
  obtain earlier | absent | ⟨mark, since, judged⟩ := saved.found_cases found
  · exact .inl earlier
  · obtain rfl | rfl := removes <;> cases absent
  · obtain ⟨-, expired⟩ | ⟨refreshes, -⟩ | hit := judge_savedBytes_cases short judged
    · exact .inr ⟨expired, mark, since⟩
    · obtain rfl | rfl := removes <;> cases refreshes
    · obtain rfl | rfl := removes <;> cases hit

/-- A load that marks what is at the path did so because of what was there before the save
replaced it, or it read the record when that was due. -/
theorem Saved.due_of_found
    {before events : List Event}
    (saved : Saved path (Shelf.Item.record { cached, storedTime := stored } key.text) before events
      race)
    (short : (Text.toBytes key.text).length < UInt32.size)
    (found : Found key.text readings race.log load .refresh) :
    Found key.text readings before load .refresh ∨
      cached.tag.prefetchDueAt stored (readings load) = .ok true ∧
        .read load (some (savedBytes key cached stored false)) ∈ events := by
  obtain earlier | absent | ⟨mark, since, judged⟩ := saved.found_cases found
  · exact .inl earlier
  · cases absent
  · obtain ⟨expires, -⟩ | ⟨-, rfl, due⟩ | hit := judge_savedBytes_cases short judged
    · cases expires
    · exact .inr ⟨due, since⟩
    · cases hit

/-- Once a save has stored its record, the path holds that record, unless a load removed
it, and with a mark if a load marked it.  Each load that did so acted on what it had read
at the path before the save replaced it, or it read the record and found it expired, or
due for a refresh. -/
theorem saved_record_among_loads
    (tier : DiskTier)
    (short : (Text.toBytes key.text).length < UInt32.size)
    (cached : Cached)
    (now : Timestamp)
    (number : Nat)
    (files : FileTree)
    (readings : Nat → Timestamp)
    (moves : List Move)
    (reached : (start tier key cached now number files).run key.text readings moves = race)
    (isStored : race.save.stored = true) :
    ∃ before after, race.log = before ++ .replaced :: after ∧
      .replaced ∉ before ∧ .replaced ∉ after ∧
      race.files.read? (tier.pathFor key) =
        (if after.any Event.isRemoval then none
          else some (savedBytes key cached now (after.any Event.isMark))) ∧
      (∀ load, .removed load ∈ after →
        Found key.text readings before load .expired ∨
        Found key.text readings before load .corrupt ∨
        cached.tag.expiredAt (readings load) = true ∧
          ∃ mark, .read load (some (savedBytes key cached now mark)) ∈ after) ∧
      (∀ load, .marked load ∈ after →
        Found key.text readings before load .refresh ∨
        cached.tag.prefetchDueAt now (readings load) = .ok true ∧
          .read load (some (savedBytes key cached now false)) ∈ after) := by
  have founded : Founded key.text readings race := by
    rw [← reached]
    exact founded_run (founded_start tier key cached now number files) moves
  have underway : Underway (tier.pathFor key) number
      (Shelf.Item.record { cached, storedTime := now } key.text) race := by
    rw [← reached]
    exact underway_run (underway_start tier key cached now number files) rfl moves
  obtain ⟨before, after, saved⟩ := underway.saved isStored
  have listed : ∀ {event}, event ∈ after → event ∈ race.log := by
    intro event since
    rw [saved.log]
    exact List.mem_append_right _ (List.mem_cons_of_mem _ since)
  obtain ⟨place, found, content⟩ := saved.content
  refine ⟨before, after, saved.log, saved.once.1, saved.once.2, ?_, ?_, ?_⟩
  · rw [FileTree.read?_eq_contentAt? (FileTree.place_of_fileEntry found), content]
    rfl
  · intro load removed
    obtain expired | corrupt := founded.events _ (listed removed)
    · obtain earlier | since := saved.expired_of_found short (.inl rfl) expired
      · exact .inl earlier
      · exact .inr (.inr since)
    · obtain earlier | since := saved.expired_of_found short (.inr rfl) corrupt
      · exact .inr (.inl earlier)
      · exact .inr (.inr since)
  · exact fun load marked => saved.due_of_found short (founded.events _ (listed marked))

/-! ## A load that is overtaken -/

def tierHere : DiskTier := { settings := { root := "." } }

def pageKey : Key := { text := "page", storageId := "70/616765" }

def oldLeaf : Cached := ⟨{ expireTime := 200 }, ⟨"<old/>", by decide⟩⟩

def newLeaf : Cached := ⟨{ expireTime := 400 }, ⟨"<new/>", by decide⟩⟩

/-- The files after a first save. -/
def oldFiles : FileTree := (tierHere.saveAt pageKey oldLeaf 100 0 .empty).2.1

/-- A second save at `now` amid steps of a load. -/
def overtakenAt (now : Timestamp) (stepsBefore stepsAfter : Nat) : Race :=
  (start tierHere pageKey newLeaf now 1 oldFiles).run pageKey.text (fun _ => now)
    (List.replicate stepsBefore (.load 0) ++ List.replicate 5 (.save none) ++
      List.replicate stepsAfter (.load 0))

/-- A load that found the old record expired removes the new one, and one that found the
old record due marks the new one, which nobody read. -/
theorem unread_record_removed_or_marked :
    (overtakenAt 250 1 1).save.stored = true ∧ (overtakenAt 250 1 1).stages 0 = .finished ∧
    (overtakenAt 250 1 1).log =
      [.read 0 (some (savedBytes pageKey oldLeaf 100 false)), .replaced, .removed 0] ∧
    (overtakenAt 250 1 1).files.read? (tierHere.pathFor pageKey) = none ∧
    (overtakenAt 197 1 2).save.stored = true ∧ (overtakenAt 197 1 2).stages 0 = .finished ∧
    (overtakenAt 197 1 2).log =
      [.read 0 (some (savedBytes pageKey oldLeaf 100 false)), .replaced, .marked 0] ∧
    (overtakenAt 197 1 2).files.read? (tierHere.pathFor pageKey) =
      some (savedBytes pageKey newLeaf 197 true) := by
  decide +kernel

/-- A load that comes after the save has read what it removes. -/
theorem saved_record_among_loads_expired :
    (Text.toBytes pageKey.text).length < UInt32.size ∧ (overtakenAt 450 0 2).save.stored = true ∧
    ∃ before after, (overtakenAt 450 0 2).log = before ++ .replaced :: after ∧
      (overtakenAt 450 0 2).files.read? (tierHere.pathFor pageKey) =
        (if after.any Event.isRemoval then none
          else some (savedBytes pageKey newLeaf 450 (after.any Event.isMark))) := by
  have short : (Text.toBytes pageKey.text).length < UInt32.size := by decide
  have isStored : (overtakenAt 450 0 2).save.stored = true := by decide +kernel
  obtain ⟨before, after, log, -, -, content, -⟩ := saved_record_among_loads tierHere short newLeaf
    450 1 oldFiles (fun _ => 450) _ rfl isStored
  exact ⟨short, isStored, before, after, log, content⟩

end Race
end DiskTier
end FragmentCache
