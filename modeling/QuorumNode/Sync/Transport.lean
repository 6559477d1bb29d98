/-
The side of the network a sync sees: the connected peers, in order, and the
requests that wait to be sent.
-/
import QuorumNode.Sync.Request

namespace QuorumNode.Sync

/-- A list given as a whole may name a peer twice; a peer that joins is listed
once. -/
structure Transport where
  peers : List Peer
  queue : List Request
deriving DecidableEq, Repr

namespace Transport

def ofPeers (peers : List Peer) : Transport := ⟨peers, []⟩

def setPeers (t : Transport) (peers : List Peer) : Transport := { t with peers }

def addPeer (t : Transport) (peer : Peer) : Transport :=
  if peer ∈ t.peers then t else { t with peers := t.peers ++ [peer] }

def removePeer (t : Transport) (peer : Peer) : Transport :=
  { t with peers := t.peers.filter (· ≠ peer) }

/-- Requests wait in the order in which they were sent. -/
def send (t : Transport) (requests : List Request) : Transport :=
  { t with queue := t.queue ++ requests }

/-- Hands over all that waits and leaves nothing behind. -/
def drain (t : Transport) : List Request × Transport :=
  (t.queue, { t with queue := [] })

def pending (t : Transport) : Nat := t.queue.length

end Transport

end QuorumNode.Sync
