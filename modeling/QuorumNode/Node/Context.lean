/-
A node: the one owner of the quorum registry and of the sync.  The two meet only
in maintenance, where the registry is offered the height of the sync's tip.
-/
import QuorumNode.Node.Config
import QuorumNode.Quorum.Registry
import QuorumNode.Sync.Machine

namespace QuorumNode.Node

/-- What the quorums are sized for, adjustable while the node runs. -/
structure Estimate where
  population : Nat
  lowParams : Bool
deriving DecidableEq, Repr

structure Context where
  params : Chain.Params
  registry : Quorum.Registry
  sync : Sync.Machine
deriving DecidableEq, Repr

namespace Context

/-- The registry starts from the network's own table. -/
def start (params : Chain.Params) (settings : Sync.Settings) (now : Int) : Context :=
  ⟨params, Quorum.Registry.ofTable params.quorums, Sync.Machine.start settings now⟩

/-- The parameters of the quorum that signs chain locks. -/
def chainLockParams (node : Context) : Except Quorum.MissingKind Quorum.Params :=
  node.registry.active node.params.chainLocks

/-- The parameters of the quorum that signs instant-send locks. -/
def instantSendParams (node : Context) : Except Quorum.MissingKind Quorum.Params :=
  node.registry.active node.params.instantSend

/-- An operation on the sync; the registry takes no notice. -/
def perform (node : Context) (now : Int) (transport : Sync.Transport)
    (op : Sync.Operation) : Context × Sync.Transport :=
  let (sync, transport) := node.sync.perform now transport op
  ({ node with sync }, transport)

/-- What the registry says to a new tip, if a tip is known. -/
def verdict? (node : Context) (estimate : Estimate) : Option Quorum.Verdict :=
  node.sync.state.tip.map fun tip =>
    node.registry.verdict estimate.population tip.height estimate.lowParams

/-- Offers the height of the tip to the registry, if a tip is known. -/
def reconfigure (node : Context) (estimate : Estimate) : Context :=
  match node.sync.state.tip with
  | none => node
  | some tip =>
      { node with
        registry := node.registry.reconfigure estimate.population tip.height
          estimate.lowParams }

/-- Maintains the sync first and then the registry; answers the registry's
verdict. -/
def maintain (node : Context) (now : Int) (transport : Sync.Transport)
    (estimate : Estimate) : Context × Sync.Transport × Option Quorum.Verdict :=
  let (synced, transport) := node.perform now transport .maintain
  (synced.reconfigure estimate, transport, synced.verdict? estimate)

end Context

end QuorumNode.Node
