import FragmentCache.Page
import FragmentCache.Tier.Standard

/-!
# Renderers

A renderer puts pages together.  It has a chain of tiers, a crew of workers, and
the time that a page waits for its blocks.
-/

namespace FragmentCache

/-- What it takes to put pages together. -/
structure Renderer (τ : Type) where
  chain : Chain τ
  /-- Workers for threaded blocks. -/
  crew : Crew Page.Slot
  /-- How long a page waits. -/
  timeout : Duration

namespace Renderer

/-- How long a page waits when nothing else is said. -/
def defaultTimeout : Duration := .milliseconds 5000

/-- A renderer of unused tiers. -/
def assemble {τ : Type} (tiers : List τ) (threads : Nat) (timeout : Duration) :
    Renderer τ where
  chain := .ofTiers tiers
  crew := ((Crew.new threads).settle fun _ => none).1
  timeout

/-- Change the tiers of a renderer. -/
def mapTiers {τ υ : Type} (change : τ → υ) (renderer : Renderer τ) : Renderer υ :=
  let tiers := renderer.chain.tiers.map fun counted =>
    { counted with tier := change counted.tier }
  { renderer with chain := { renderer.chain with tiers } }

/-- Setting for the number of workers. -/
def threadsPath : String := "/cache/threads"

/-- Setting for the time that a page waits. -/
def timeoutPath : String := "/cache/invoke-timeout-ms"

/-- The configured number of workers. -/
def configuredThreads (source : ConfigSource) : Nat := source.wordOr threadsPath 0

/-- The configured time that a page waits. -/
def configuredTimeout (source : ConfigSource) : Duration :=
  source.millisecondsOr timeoutPath defaultTimeout

/-- The configured tier in memory. -/
def configuredMemory (source : ConfigSource) : List StandardTier :=
  if source.contains MemoryTier.configSection then
    [.memory ((MemoryTier.new {}).configured source)]
  else []

/-- The configured tier of files, which is opened. -/
def configuredDisk (source : ConfigSource) (files : FileTree) :
    FileTree × Except Config.Fault (List StandardTier) :=
  if source.contains DiskTier.configSection then
    match DiskTier.Settings.ofSource source DiskTier.configSection with
    | .error fault => (files, .error fault)
    | .ok settings =>
      let (files, opened) := DiskTier.create settings files
      (files, opened.map fun tier => [.disk tier])
  else (files, .ok [])

/-- The configured tiers, the one in memory first. -/
def configuredTiers (source : ConfigSource) (files : FileTree) :
    FileTree × Except Config.Fault (List StandardTier) :=
  let (files, disk) := configuredDisk source files
  (files, disk.map (configuredMemory source ++ ·))

/-- The configured renderer. -/
def ofSource (source : ConfigSource) (files : FileTree) :
    FileTree × Except Config.Fault (Renderer StandardTier) :=
  let (files, tiers) := configuredTiers source files
  (files, tiers.map fun tiers =>
    assemble tiers (configuredThreads source) (configuredTimeout source))

/-- The tiers of a renderer for which nothing is said: one in memory. -/
def defaultTiers : List StandardTier := [.memory (.new {})]

/-- The renderer for which nothing is said. -/
def default : Renderer StandardTier := assemble defaultTiers 0 defaultTimeout

/-- The documents of a page, and the page as it was left after late work. -/
def render {τ σ : Type} [CacheTier τ] (renderer : Renderer τ) (blocks : List (Block σ))
    (request : Request) (surroundings : Surroundings) (work : σ) :
    Renderer τ × Surroundings × σ × List Document :=
  let page := (Page.new blocks request renderer.crew
    { chain := renderer.chain, surroundings, work }).run
  ({ renderer with chain := page.shared.chain, crew := page.crew },
    page.shared.surroundings, page.shared.work, page.documents)

end Renderer
end FragmentCache
