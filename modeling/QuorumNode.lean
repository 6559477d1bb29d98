import QuorumNode.Json.Reader
import QuorumNode.Json.Writer
import QuorumNode.Main
import QuorumNode.Sync.Clock
import QuorumNode.Proofs.Node.Startup
import QuorumNode.Proofs.Sync.BestHeader
import QuorumNode.Proofs.Sync.Departure
import QuorumNode.Proofs.Sync.Replay
import QuorumNode.Proofs.Sync.Requests
import QuorumNode.Proofs.Sync.Silence
import QuorumNode.Proofs.Sync.Exhaustion
import QuorumNode.Proofs.Node.Product
import QuorumNode.Proofs.Quorum.Deferral
import QuorumNode.Proofs.Sync.ClockShift
import QuorumNode.Proofs.Sync.Punctual
import QuorumNode.Proofs.Sync.RepeatedPeers
import QuorumNode.Proofs.Sync.Completion
import QuorumNode.Proofs.Sync.Forgetting
import QuorumNode.Proofs.Sync.Freshness
import QuorumNode.Proofs.Sync.Settling
import QuorumNode.Proofs.Sync.Reception
import QuorumNode.Proofs.Sync.EarlyTick
import QuorumNode.Proofs.Sync.Announcement
import QuorumNode.Proofs.Chain.Refusal
import QuorumNode.Proofs.Quorum.Spelling
import QuorumNode.Proofs.Sync.Bookkeeping
import QuorumNode.Proofs.Chain.Spelling
import QuorumNode.Proofs.Quorum.Density
import QuorumNode.Proofs.Node.Selection
import QuorumNode.Proofs.Data.Record
import QuorumNode.Proofs.Json.Language
import QuorumNode.Proofs.Node.Merging
import QuorumNode.Proofs.Quorum.Filing
