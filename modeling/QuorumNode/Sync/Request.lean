/-
What a node asks of its peers during a sync.
-/
import QuorumNode.Sync.Message

namespace QuorumNode.Sync

/-- Governance as a whole is asked for in its own way, every other stage by
name. -/
inductive Request where
  | stageData (stage : Stage) (peer : Peer)
  | governanceSync (peer : Peer)
deriving DecidableEq, Repr

namespace Request

/-- The request that fetches `stage` from `peer`. -/
def ofStage (stage : Stage) (peer : Peer) : Request :=
  if stage = .governance then governanceSync peer else stageData stage peer

def peer : Request → Peer
  | stageData _ peer => peer
  | governanceSync peer => peer

end Request

end QuorumNode.Sync
