import FragmentCache.Chain

/-!
# Blocks

A block makes one document of a page out of a request.  A cached block first looks
for the document of the same invocation, and decides after its work whether the
new document is worth storing.
-/

namespace FragmentCache

/-- What is asked for. -/
structure Request where
  path : String := "/"
  /-- Values of the arguments. -/
  arguments : Table String String := .empty

namespace Request

/-- Give an argument a value, in place of one that it has. -/
def withArgument (request : Request) (name value : String) : Request :=
  { request with arguments := request.arguments.put name value }

/-- Value of an argument. -/
def argument? (request : Request) (name : String) : Option String :=
  request.arguments.find? name

end Request

namespace Block

/-- Why a block has no document. -/
inductive Fault where
  | failed (message : String)
  | invalidDocument (fault : Document.Fault)
  deriving DecidableEq

/-- Text of a fault. -/
def Fault.message : Fault → String
  | failed message => message
  | invalidDocument fault => "block produced an invalid document: " ++ fault.message

/-- What came of the work of a block. -/
abbrev Outcome := Except Crash (Except Fault Cached)

/-- What a call of a block answers. -/
abbrev Answer := Except Crash (Except Fault Document)

/-- One run of the work of a block. -/
structure Run where
  outcome : Outcome
  /-- On a worker the run ends only after the page was answered. -/
  isLate : Bool := false

/-- The answer that an outcome gives. -/
def Outcome.answer (outcome : Outcome) : Answer :=
  outcome.map fun result => result.map Cached.document

/-- How a block uses the cache. -/
inductive Policy where
  | uncached
  /-- With caching switched on or off, and the time to cache documents for whose
  expiry is left open. -/
  | cached (isEnabled : Bool) (cacheTime : Option Duration)
  deriving DecidableEq

/-- Why a call goes past the cache. -/
inductive SkipReason where
  /-- Caching is switched off. -/
  | disabled
  /-- There are no tiers. -/
  | noTiers
  deriving DecidableEq

/-- What a cached block finds before its work. -/
inductive Lookup where
  | hit (cached : Cached)
  | miss
  | skip (reason : SkipReason)
  deriving DecidableEq

end Block

/-- A unit of a page whose work keeps a state of type `σ`. -/
structure Block (σ : Type) where
  name : String
  /-- Whether a worker may run it. -/
  isThreaded : Bool := false
  policy : Block.Policy := .uncached
  /-- What the document of a request is the result of. -/
  invocation : Request → Invocation
  /-- The work. -/
  execute : σ → Request → σ × Block.Run

namespace Block

/-! ## Storing -/

/-- Whether a new document is stored at `now`, and the tag it is stored with.  Open
expiry with a known modification is always stored; a configured cache time of at
least the minimum is stored and fills an open expiry; otherwise the validity left
has to reach the minimum. -/
def shouldStoreAt (cacheTime : Option Duration) (minimum : Duration) (tag : Tag)
    (now : Timestamp) : Bool × Tag :=
  let byValidity := ((tag.timeToLiveAt now).any fun left =>
    decide (minimum.clampedSeconds ≤ left), tag)
  if !tag.hasExpireTime && tag.hasLastModified then (true, tag)
  else match cacheTime with
    | some time =>
      if minimum ≤ time then
        (true, if tag.hasExpireTime then tag
          else { tag with expireTime := now.saturatingAdd time.clampedSeconds })
      else byValidity
    | none => byValidity

/-- The configured cache time. -/
def Policy.cacheTime? : Policy → Option Duration
  | uncached => none
  | cached _ cacheTime => cacheTime

variable {σ τ : Type}

/-- Why calls of a block go past the cache, if they do. -/
def skipReason? (block : Block σ) (chain : Chain τ) : Option SkipReason :=
  match block.policy with
  | .uncached | .cached false _ => some .disabled
  | .cached true _ => if chain.tiers.isEmpty then some .noTiers else none

variable [CacheTier τ]

/-- Look for the document of an invocation. -/
def lookup (block : Block σ) (chain : Chain τ) (invocation : Invocation)
    (surroundings : Surroundings) : Chain τ × Surroundings × Except Crash Lookup :=
  match block.skipReason? chain with
  | some reason => (chain, surroundings, .ok (.skip reason))
  | none =>
    let (chain, surroundings, answer) := chain.load invocation surroundings
    (chain, surroundings, answer.map fun
      | some cached => .hit cached
      | none => .miss)

/-- Store a new document of an invocation when it is worth it. -/
def store (block : Block σ) (chain : Chain τ) (invocation : Invocation) (cached : Cached)
    (surroundings : Surroundings) : Chain τ × Surroundings :=
  let (now, surroundings) := surroundings.readClock
  match shouldStoreAt block.policy.cacheTime? chain.minimalCacheTime cached.tag now with
  | (true, tag) =>
    let (chain, surroundings, _) := chain.save invocation { cached with tag } surroundings
    (chain, surroundings)
  | (false, _) => (chain, surroundings)

end Block
end FragmentCache
