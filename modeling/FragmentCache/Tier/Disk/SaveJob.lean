import FragmentCache.FileTree

/-!
# Saving a file in steps

A file is saved by writing a temporary file beside it and renaming that one over
it, so whoever reads the path meets the old content or the new one.  Every step
may meet with a mishap; the temporary file is then removed.
-/

namespace FragmentCache

namespace SaveJob

/-- What comes next. -/
inductive Stage where
  /-- Make the directories. -/
  | preparing
  /-- Make the temporary file. -/
  | creating
  /-- Write the bytes into it. -/
  | writing
  /-- Wait until they are stored. -/
  | syncing
  /-- Rename it over the path. -/
  | renaming
  /-- Remove it after a mishap. -/
  | cleaning
  | finished (stored : Bool)
  deriving DecidableEq

/-- A failure of the file system in a step, after part of its work was done. -/
structure Mishap where
  /-- Directories there, from the root down, or bytes written before. -/
  progress : Nat := 0
  deriving DecidableEq

end SaveJob

/-- A file being saved. -/
structure SaveJob where
  /-- Where the bytes go. -/
  path : String
  /-- Where they are written first. -/
  temporary : String
  bytes : Bytes
  stage : SaveJob.Stage := .preparing
  deriving DecidableEq

namespace SaveJob

/-- Number of hexadecimal digits in the name of a temporary file. -/
def numberWidth : Nat := 32

/-- Path of the temporary file with a given number. -/
def temporaryPath (path : String) (number : Nat) : String :=
  path ++ ".tmp." ++ String.ofList (Hex.padded numberWidth number)

/-- The job that saves some bytes at a path. -/
def new (path : String) (number : Nat) (bytes : Bytes) : SaveJob where
  path
  temporary := temporaryPath path number
  bytes

/-- Go on to a stage. -/
def goTo (job : SaveJob) (stage : Stage) : SaveJob := { job with stage }

/-- Make the directories; a mishap leaves the last ones out. -/
def prepare (job : SaveJob) (mishap : Option Mishap) (files : FileTree) :
    SaveJob × FileTree :=
  match FilePath.parent? job.path with
  | none => (job.goTo (.finished false), files)
  | some directory =>
    match mishap with
    | none =>
      let (files, made) := files.makeDirectories directory
      (job.goTo (if made then .creating else .finished false), files)
    | some mishap =>
      let begun := (FilePath.parents job.path).reverse.take mishap.progress
      let made := begun.getLast?.map fun last => (files.makeDirectories last).1
      (job.goTo (.finished false), made.getD files)

/-- Take a step that changes the files, or clean up when it fails. -/
def attempt (job : SaveJob) (next : Stage) (files : FileTree) (changed : Option FileTree) :
    SaveJob × FileTree :=
  match changed with
  | some changed => (job.goTo next, changed)
  | none => (job.goTo .cleaning, files)

/-- Write the bytes; a mishap leaves the last ones out. -/
def writeBytes (job : SaveJob) (mishap : Option Mishap) (files : FileTree) :
    SaveJob × FileTree :=
  match mishap with
  | none => job.attempt .syncing files (files.write? job.temporary job.bytes)
  | some mishap =>
    job.attempt .cleaning files
      (files.write? job.temporary (job.bytes.take mishap.progress))

/-- Take the next step.  Removing the temporary file meets with no mishap. -/
def step (job : SaveJob) (mishap : Option Mishap) (files : FileTree) : SaveJob × FileTree :=
  match job.stage with
  | .preparing => job.prepare mishap files
  | .creating =>
    job.attempt .writing files
      (if mishap.isSome then none else files.write? job.temporary [])
  | .writing => job.writeBytes mishap files
  | .syncing => (job.goTo (if mishap.isSome then .cleaning else .renaming), files)
  | .renaming =>
    job.attempt (.finished true) files
      (if mishap.isSome then none else files.rename? job.temporary job.path)
  | .cleaning => (job.goTo (.finished false), (files.removeFile? job.temporary).getD files)
  | .finished _ => (job, files)

/-- The mishap that every stage meets with, if any. -/
abbrev Mishaps := Stage → Option Mishap

/-- No stage meets with a mishap. -/
def noMishaps : Mishaps := fun _ => none

/-- Take a number of steps. -/
def steps (job : SaveJob) (mishaps : Mishaps) (files : FileTree) : Nat → SaveJob × FileTree
  | 0 => (job, files)
  | count + 1 =>
    let (job, files) := job.step (mishaps job.stage) files
    job.steps mishaps files count

/-- Largest number of steps to the end. -/
def longestRun : Nat := 6

/-- Whether the bytes were stored. -/
def stored (job : SaveJob) : Bool := job.stage == .finished true

/-- Take all steps, and tell whether the bytes were stored. -/
def run (job : SaveJob) (mishaps : Mishaps) (files : FileTree) : FileTree × Bool :=
  let (job, files) := job.steps mishaps files longestRun
  (files, job.stored)

@[simp] theorem stage_goTo (job : SaveJob) (stage : Stage) : (job.goTo stage).stage = stage :=
  rfl

@[simp] theorem steps_zero (job : SaveJob) (mishaps : Mishaps) (files : FileTree) :
    job.steps mishaps files 0 = (job, files) := rfl

/-- A job that has finished stays as it is. -/
theorem step_of_finished {job : SaveJob} {stored : Bool} (finished : job.stage = .finished stored)
    (mishap : Option Mishap) (files : FileTree) : job.step mishap files = (job, files) := by
  simp [step, finished]

end SaveJob
end FragmentCache
