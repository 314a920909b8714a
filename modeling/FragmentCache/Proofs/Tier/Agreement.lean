import FragmentCache.Proofs.Tier.Disk.Ledger
import FragmentCache.Proofs.Tier.Memory

/-!
# Memory and disk agree on freshness

A tier in memory that never evicts and a disk tier over an empty directory reply alike to
any loads and saves at any times, however often the disk tier is opened again.  A
document from the disk counts as new, whatever its producer reported.
-/

namespace FragmentCache
namespace DiskTier

open Ledger (Operation Reply)

/-- A disk tier over an empty directory replies as a memory tier without capacities, but
finds every document as a new one. -/
theorem run_eq_memory_run
    {memory : MemoryTier.Settings}
    (unbounded : memory.poolSize = 0)
    {settings : Settings}
    (hasRoom : HasRoom settings.root)
    {files : FileTree}
    {home : FileTree.Place}
    (leads : files.follow (files.start settings.root) (FilePath.segments settings.root) = .ok home)
    (directory : files.node? home = some .directory)
    (empty : ∀ first rest, files.node? (home ++ first :: rest) = none)
    (operations : List Operation)
    (short : ∀ text ∈ operations.filterMap Operation.keyText?,
      (Text.toBytes text).length < UInt32.size)
    (apart : ∀ first ∈ operations.filterMap Operation.keyText?,
      ∀ second ∈ operations.filterMap Operation.keyText?,
        Sha256.hexDigest first = Sha256.hexDigest second → first = second) :
    ({ settings } : DiskTier).run files operations =
      ((MemoryTier.new memory).run operations).map Reply.asNew := by
  let site : Site := {
    root := settings.root, home, digest := Sha256.hexDigest, hasRoom
    isDigest := Sha256.isDigest_hexDigest }
  let used : String → Prop := fun text => text ∈ operations.filterMap Operation.keyText?
  have settled : site.Settled files := ⟨leads, directory⟩
  have tidy : site.Tidy files := settled.tidy empty
  have nothing : ∀ text, files.contentAt? (site.place text) = none := by
    intro text
    rw [FileTree.contentAt?, Site.place, Site.shardPlace, List.append_assoc]
    exact congrArg (·.bind FileTree.Node.content?) (empty _ _)
  have holds : Holds site used files Ledger.empty := ⟨tidy, fun text _ => nothing text⟩
  have separate : Separate site used :=
    ⟨short, fun first second firstUsed secondUsed => apart first firstUsed second secondUsed⟩
  have isUsed : ∀ operation ∈ operations, ∀ text, operation.keyText? = some text → used text :=
    fun operation listed text has => List.mem_filterMap.2 ⟨operation, listed, has⟩
  have at_ : ({ settings } : DiskTier).At site := ⟨rfl, rfl⟩
  rw [holds.run separate at_ isUsed, MemoryTier.run_new unbounded]

/-- A directory with nothing below it. -/
def emptyCache : FileTree := FileTree.empty.setNode ["cache"] .directory

/-- A document that its producer reported as an old one. -/
def oldLeaf : Cached := ⟨{ modified := false, expireTime := 200 }, ⟨"<kept/>", by decide⟩⟩

/-- Loads and saves of two invocations, at times that go back and forth. -/
def backAndForth : List Operation :=
  let page : Invocation := { method := "page" }
  let block : Invocation := { method := "block", params := ["1"] }
  [.load page 100, .save page oldLeaf 100 0, .load page 196, .load page 196,
    .save block oldLeaf 150 1, .reopen, .load page 120, .load block 90, .load page 200,
    .load page 100, .reopen, .load block 197]

/-- A memory tier with three pools and a disk tier go through one run alike. -/
theorem run_eq_memory_run_back_and_forth :
    (MemoryTier.new { pools := 3, poolSize := 0 }).run backAndForth =
      [.found none, .saved true, .found none, .found (some oldLeaf), .saved true,
        .reopened true, .found (some oldLeaf), .found (some oldLeaf), .found none, .found none,
        .reopened true, .found none] ∧
    ({ settings := { root := "cache" } } : DiskTier).run emptyCache backAndForth =
      ((MemoryTier.new { pools := 3, poolSize := 0 }).run backAndForth).map Reply.asNew := by
  have unbounded : ({ pools := 3, poolSize := 0 } : MemoryTier.Settings).poolSize = 0 := rfl
  have hasRoom : HasRoom ({ root := "cache" } : Settings).root := by decide +kernel
  have leads : emptyCache.follow (emptyCache.start "cache") (FilePath.segments "cache") =
      .ok ["cache"] := by decide +kernel
  have empty : ∀ first rest, emptyCache.node? (["cache"] ++ first :: rest) = none := by
    intro first rest
    rw [emptyCache, FileTree.node?_setNode _ (by decide), if_neg (by simp)]
    rfl
  refine ⟨by decide +kernel, ?_⟩
  exact run_eq_memory_run unbounded hasRoom leads rfl empty backAndForth (by decide +kernel)
    (by decide +kernel)

end DiskTier
end FragmentCache
