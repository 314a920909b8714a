import FragmentCache.Record.Disk
import FragmentCache.Tag.Prefetch
import FragmentCache.Tier
import FragmentCache.Tier.Disk.SaveJob

/-!
# Disk tier

Documents held in one file each.  A load reads the whole file, judges it, and then
acts on the path again: an expired or corrupt file is removed, one due for a
refresh is marked in place, and one that belongs to another key stays as it is.
-/

namespace FragmentCache

namespace DiskTier

/-- Shortest cache time worth storing when none is configured. -/
def defaultMinimalCacheTime : Duration := .seconds 5

/-- Settings of a disk tier. -/
structure Settings where
  /-- Directory of the files. -/
  root : String
  /-- Shortest cache time worth storing. -/
  minimalCacheTime : Duration := defaultMinimalCacheTime
  deriving DecidableEq

/-- The settings configured in a section, which has to name the directory. -/
def Settings.ofSource (source : ConfigSource) (sectionPath : String) :
    Except Config.Fault Settings :=
  match source.value (sectionPath ++ "/root-dir") with
  | none => .error (.missingRoot sectionPath)
  | some root => .ok {
      root
      minimalCacheTime :=
        source.secondsOr (sectionPath ++ "/min-cache-time") defaultMinimalCacheTime }

/-- Section of a configuration that holds the settings. -/
def configSection : String := "/cache/disk"

end DiskTier

/-- A tier of files. -/
structure DiskTier where
  settings : DiskTier.Settings
  /-- Digest that names the file of a key text. -/
  digest : String → String := Sha256.hexDigest
  /-- Records written. -/
  writes : Nat := 0
  /-- Records that left because they had expired. -/
  expired : Nat := 0
  /-- Records rejected as corrupt. -/
  corrupt : Nat := 0
  /-- Records found under the identifier of another key. -/
  keyClashes : Nat := 0

namespace DiskTier

/-- Path of a key's file. -/
def pathFor (tier : DiskTier) (key : Key) : String :=
  FilePath.join tier.settings.root key.storageId

/-! ## Loading -/

/-- What the content of a file says about a key. -/
inductive Verdict where
  /-- There is no file that can be read. -/
  | absent
  /-- The content is no record. -/
  | corrupt
  /-- The record belongs to another key. -/
  | foreign
  /-- The record has expired. -/
  | expired
  /-- The record is due for a refresh. -/
  | refresh
  | hit (cached : Cached)
  deriving DecidableEq

/-- Whether somebody has to be told now to refresh a record; only one caller is. -/
def dueAt (header : DiskRecord.Header) (now : Timestamp) : Except Crash Bool :=
  if header.prefetchMarked then .ok false
  else header.tag.prefetchDueAt header.storedTime now

/-- Judge what a load of a key text at `now` read. -/
def judge (keyText : String) (now : Timestamp) (content : Option Bytes) :
    Except Crash Verdict := do
  let some stored := content | return .absent
  let .ok header := DiskRecord.decodeHeader stored | return .corrupt
  if header.key ≠ keyText then return .foreign
  if header.tag.expiredAt now then return .expired
  if ← dueAt header now then return .refresh
  match DiskRecord.decodeDocument stored header.bodyOffset with
  | .ok document => return .hit ⟨header.tag, document⟩
  | .error _ => return .corrupt

/-- Bytes that mark a record in place. -/
def markBytes : Bytes := Record.wordBytes DiskRecord.markedSignature

/-- Act on the file after a verdict; what cannot be done is left. -/
def act (files : FileTree) (path : String) : Verdict → FileTree
  | .corrupt | .expired => (files.removeFile? path).getD files
  | .refresh => (files.overwrite? path 0 markBytes).getD files
  | .absent | .foreign | .hit _ => files

/-- Count a verdict. -/
def count (tier : DiskTier) : Verdict → DiskTier
  | .corrupt => { tier with corrupt := tier.corrupt + 1 }
  | .foreign => { tier with keyClashes := tier.keyClashes + 1 }
  | .expired => { tier with expired := tier.expired + 1 }
  | .absent | .refresh | .hit _ => tier

/-- The document of a verdict. -/
def Verdict.hit? : Verdict → Option Cached
  | .hit cached => some cached
  | _ => none

/-- Load the document of a key at `now`. -/
def loadAt (tier : DiskTier) (key : Key) (now : Timestamp) (files : FileTree) :
    Except Crash (DiskTier × FileTree × Option Cached) := do
  let path := tier.pathFor key
  let verdict ← judge key.text now (files.read? path)
  return (tier.count verdict, act files path verdict, verdict.hit?)

/-! ## Saving -/

/-- The bytes stored for a key at `now`. -/
def recordBytes (key : Key) (cached : Cached) (now : Timestamp) : Bytes :=
  DiskRecord.encode {
    prefetchMarked := false, tag := cached.tag, storedTime := now
    key := key.text, document := cached.document }

/-- Save a document under a key at `now` amid mishaps; `number` makes the name of
the temporary file a fresh one. -/
def saveAmid (mishaps : SaveJob.Mishaps) (tier : DiskTier) (key : Key) (cached : Cached)
    (now : Timestamp) (number : Nat) (files : FileTree) : DiskTier × FileTree × Bool :=
  let job := SaveJob.new (tier.pathFor key) number (recordBytes key cached now)
  let (files, stored) := job.run mishaps files
  ({ tier with writes := tier.writes + if stored then 1 else 0 }, files, stored)

/-- Save a document under a key at `now` without a mishap. -/
def saveAt (tier : DiskTier) (key : Key) (cached : Cached) (now : Timestamp) (number : Nat)
    (files : FileTree) : DiskTier × FileTree × Bool :=
  tier.saveAmid SaveJob.noMishaps key cached now number files

/-- Remove the file of a key, and tell whether there was one. -/
def remove (tier : DiskTier) (key : Key) (files : FileTree) : FileTree × Bool :=
  match files.removeFile? (tier.pathFor key) with
  | some removed => (removed, true)
  | none => (files, false)

/-! ## The tier as a whole -/

/-- Create a tier, making its directory. -/
def create (settings : Settings) (files : FileTree) :
    FileTree × Except Config.Fault DiskTier :=
  match files.makeDirectories settings.root with
  | (files, true) => (files, .ok { settings })
  | (files, false) => (files, .error (.rootNotCreated settings.root))

/-- Gauges; the number of entries is not known. -/
def usage (tier : DiskTier) : Usage :=
  { writes := tier.writes, expired := tier.expired, corrupt := tier.corrupt
    keyClashes := tier.keyClashes }

/-- Apply a configuration: the tier is opened anew, or stays as it was when that
fails. -/
def configure (tier : DiskTier) (source : ConfigSource) (files : FileTree) :
    DiskTier × FileTree × Except Config.Fault Unit :=
  match Settings.ofSource source configSection with
  | .error fault => (tier, files, .error fault)
  | .ok settings =>
    match create settings files with
    | (files, .ok opened) => ({ opened with digest := tier.digest }, files, .ok ())
    | (files, .error fault) => (tier, files, .error fault)

instance : CacheTier DiskTier where
  name _ := "Disk"
  minimalCacheTime tier := tier.settings.minimalCacheTime
  keyFor tier := Key.filed tier.digest
  load tier key surroundings :=
    let (now, surroundings) := surroundings.readClock
    match tier.loadAt key now surroundings.files with
    | .ok (loaded, files, hit) => (loaded, { surroundings with files }, .ok hit)
    | .error crash => (tier, surroundings, .error crash)
  save tier key cached surroundings :=
    let (now, surroundings) := surroundings.readClock
    let (number, surroundings) := surroundings.freshNumber
    let (saved, files, stored) := tier.saveAt key cached now number surroundings.files
    (saved, { surroundings with files }, stored)
  usage := usage
  configure tier source surroundings :=
    let (configured, files, answer) := tier.configure source surroundings.files
    (configured, { surroundings with files }, answer)

end DiskTier
end FragmentCache
