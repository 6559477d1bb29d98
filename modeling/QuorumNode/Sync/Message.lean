/-
What peers send during a sync, and what becomes of it.
-/
import QuorumNode.Block
import QuorumNode.Sync.Stage

namespace QuorumNode.Sync

/-- Peers are told apart by name. -/
abbrev Peer := String

/-- A status count says that the peer has served all it has of one stage, which
it names by number. -/
inductive Message where
  | statusCount (item count : Int)
  | governanceObject (hash : Hash)
  | governanceVote (hash : Hash)
  | bestHeight (height : Nat)
deriving DecidableEq, Repr

namespace Message

/-- The name of the protocol command. -/
def command : Message → String
  | statusCount .. => "ssc"
  | governanceObject _ => "govobj"
  | governanceVote _ => "govobjvote"
  | bestHeight _ => "bestheight"

/-- The stage a message is about, if it is about one. -/
def stage? : Message → Option Stage
  | statusCount item _ => Stage.ofId? item
  | governanceObject _ => some .governanceObjects
  | governanceVote _ => some .governanceVotes
  | bestHeight _ => none

/-- A message is an object of one member, named for the sort of message. -/
def toData : Message → Data.Value
  | statusCount item count =>
      .ofFields [("SyncStatusCount", .ofFields [("item_id", .int item), ("count", .int count)])]
  | governanceObject hash =>
      .ofFields [("GovernanceObject", .ofFields [("hash", hash.toData)])]
  | governanceVote hash =>
      .ofFields [("GovernanceVote", .ofFields [("hash", hash.toData)])]
  | bestHeight height =>
      .ofFields [("BestHeight", .ofFields [("height", .ofNat height)])]

/-- Reads the one field of a record. -/
def onlyField? (name : String) (read? : Data.Value → Option α) (v : Data.Value) : Option α :=
  if v.isRecord [name] then v.required? [name] name read? else none

def statusCountOfData? (v : Data.Value) : Option Message :=
  let fields := ["item_id", "count"]
  if v.isRecord fields then do
    let item ← v.required? fields "item_id" (·.int32?)
    let count ← v.required? fields "count" (·.int32?)
    return statusCount item count
  else none

def ofData? (v : Data.Value) : Option Message := do
  match ← v.soleMember? with
  | ("SyncStatusCount", body) => statusCountOfData? body
  | ("GovernanceObject", body) => (onlyField? "hash" Hash.ofData? body).map governanceObject
  | ("GovernanceVote", body) => (onlyField? "hash" Hash.ofData? body).map governanceVote
  | ("BestHeight", body) => (onlyField? "height" (·.nat64?) body).map bestHeight
  | _ => none

end Message

/-- What a message came to. -/
inductive Disposition where
  | progress
  | completed
  | recorded
  | stale
  | ignored
deriving DecidableEq, Repr

end QuorumNode.Sync
