/-
The configuration of a node: as data with a default for every field, and the
chain parameters it selects.
-/
import QuorumNode.Chain.Params
import QuorumNode.Sync.Settings

namespace QuorumNode.Node

/-- `population` is the number of masternodes that quorums are sized for;
`chainLocks` names the quorum kind that signs chain locks on a devnet. -/
structure Config where
  network : String := Chain.Network.main.name
  logLevel : String := "info"
  logFile : Option String := none
  seedPeers : List String := []
  population : Nat := 0
  lowParams : Bool := false
  chainLocks : Option String := none
  sync : Sync.Settings := {}
deriving DecidableEq, Repr, Inhabited

namespace Config

def fields : List String :=
  ["network", "log_level", "log_file", "seed_peers", "masternode_count",
    "low_llmq_params", "chain_locks_quorum", "sync"]

/-- Each field as data, the sync section as `sync`. -/
def entries (cfg : Config) (sync : Data.Value) : List (String × Data.Value) :=
  [("network", .ofString cfg.network),
    ("log_level", .ofString cfg.logLevel),
    ("log_file", .ofOption .ofString cfg.logFile),
    ("seed_peers", .ofList .ofString cfg.seedPeers),
    ("masternode_count", .ofNat cfg.population),
    ("low_llmq_params", .bool cfg.lowParams),
    ("chain_locks_quorum", .ofOption .ofString cfg.chainLocks),
    ("sync", sync)]

def toData (cfg : Config) : Data.Value := .ofFields (cfg.entries cfg.sync.toData)

/-- A field that is not given has its default. -/
def ofData? (v : Data.Value) : Option Config :=
  let usual : Config := {}
  if v.isRecord fields then do
    let network ← v.fieldOr fields "network" (·.string?) usual.network
    let logLevel ← v.fieldOr fields "log_level" (·.string?) usual.logLevel
    let logFile ← v.fieldOr fields "log_file" (·.optionalString?) usual.logFile
    let seedPeers ← v.fieldOr fields "seed_peers" (·.listOf? (·.string?)) usual.seedPeers
    let population ← v.fieldOr fields "masternode_count" (·.nat64?) usual.population
    let lowParams ← v.fieldOr fields "low_llmq_params" (·.bool?) usual.lowParams
    let chainLocks ←
      v.fieldOr fields "chain_locks_quorum" (·.optionalString?) usual.chainLocks
    let sync ← v.fieldOr fields "sync" Sync.Settings.ofData? usual.sync
    return ⟨network, logLevel, logFile, seedPeers, population, lowParams, chainLocks, sync⟩
  else none

def networkKind (cfg : Config) : Except Chain.Error Chain.Network :=
  Chain.Network.parse cfg.network

/-- The parameters of the configured network, with the chain-lock override
applied.  The network is read first, then the override, then its use is
judged. -/
def chainParams (cfg : Config) : Except Chain.Error Chain.Params := do
  let params := Chain.Params.ofNetwork (← cfg.networkKind)
  match cfg.chainLocks with
  | none => return params
  | some name =>
      match Quorum.Kind.parse name with
      | .error cause => throw (.invalidQuorum cause)
      | .ok kind => params.withChainLocks kind

end Config

end QuorumNode.Node
