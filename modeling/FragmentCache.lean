import FragmentCache.Config.Tree
import FragmentCache.Page.Waiting
import FragmentCache.Record.Memcached
import FragmentCache.Renderer
import FragmentCache.Tag.Json
import FragmentCache.Proofs.Pool.Refinement
import FragmentCache.Proofs.Pool.Inclusion
import FragmentCache.Proofs.Record.Disk
import FragmentCache.Proofs.Record.Memcached
import FragmentCache.Proofs.Recency.Run
import FragmentCache.Proofs.Pool.Accounts
import FragmentCache.Proofs.Block.Gathering
import FragmentCache.Proofs.Block.Seating
import FragmentCache.Proofs.Block.Accounts
import FragmentCache.Proofs.Block.Stampede
import FragmentCache.Proofs.Chain.Interleaving
import FragmentCache.Proofs.Chain.Signals
import FragmentCache.Proofs.Tier.Refresh
import FragmentCache.Proofs.Tier.Disk.Saving
import FragmentCache.Proofs.Tier.Disk.Race
import FragmentCache.Proofs.Chain.Leftover
import FragmentCache.Proofs.Chain.Accounts
import FragmentCache.Proofs.Page.Waiting
import FragmentCache.Proofs.Page.Asleep
import FragmentCache.Proofs.Page.Closing
import FragmentCache.Proofs.Page.Answered
import FragmentCache.Proofs.Tier.Disk.Truncation
import FragmentCache.Proofs.Chain.Layers
import FragmentCache.Proofs.Chain.Coherence
import FragmentCache.Proofs.Key.Parts
import FragmentCache.Proofs.Chain.Sharing
import FragmentCache.Proofs.Pool.Sharding
import FragmentCache.Proofs.Tier.Disk.Loading
import FragmentCache.Proofs.Tier.Return
import FragmentCache.Proofs.Tag.Due
import FragmentCache.Proofs.Block.Storing
import FragmentCache.Proofs.Page.Outcome
import FragmentCache.Proofs.Block.Transcript
import FragmentCache.Proofs.Document.Escapes
import FragmentCache.Proofs.Config.Walk
