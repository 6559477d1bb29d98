/-
The stages of the bootstrap synchronisation.  Five stages follow each other;
failure stands outside of the progression and below it.
-/
import QuorumNode.Data.Record

namespace QuorumNode.Sync

inductive Stage where
  | failed
  | blockchain
  | governance
  | governanceObjects
  | governanceVotes
  | finished
deriving DecidableEq, Repr, Inhabited

namespace Stage

/-- Every stage, in the order of the numbers. -/
def all : List Stage :=
  [failed, blockchain, governance, governanceObjects, governanceVotes, finished]

theorem mem_all (stage : Stage) : stage ∈ all := by
  cases stage <;> decide

/-- The stages a sync runs through, in order. -/
def progression : List Stage :=
  [blockchain, governance, governanceObjects, governanceVotes, finished]

/-- The number peers give for a stage; it also orders the stages. -/
def id : Stage → Int
  | failed => -1
  | blockchain => 1
  | governance => 4
  | governanceObjects => 10
  | governanceVotes => 11
  | finished => 999

def ofId? (id : Int) : Option Stage :=
  all.find? fun stage => stage.id == id

theorem ofId?_id (stage : Stage) : ofId? stage.id = some stage := by
  cases stage <;> rfl

instance : Ord Stage := ⟨fun a b => compare a.id b.id⟩

/-- Ascending order by number. -/
def sort (stages : List Stage) : List Stage :=
  stages.mergeSort fun a b => (compare a b).isLE

/-- The stage that follows; the last stage and failure have none. -/
def next? : Stage → Option Stage
  | blockchain => some governance
  | governance => some governanceObjects
  | governanceObjects => some governanceVotes
  | governanceVotes => some finished
  | finished | failed => none

/-- The place in the progression, counted from zero. -/
def index? (stage : Stage) : Option Nat :=
  progression.idxOf? stage

/-- The share of the progression that lies behind, in quarters. -/
def quarters (stage : Stage) : Nat :=
  stage.index?.getD 0

/-- Nothing more happens by itself in a stage that is terminal. -/
def terminal (stage : Stage) : Bool :=
  stage == failed || stage == finished

def name : Stage → String
  | failed => "FAILED"
  | blockchain => "BLOCKCHAIN"
  | governance => "GOVERNANCE"
  | governanceObjects => "GOVERNANCE_OBJECTS"
  | governanceVotes => "GOVERNANCE_VOTES"
  | finished => "FINISHED"

/-- The spelling of a stage in JSON text. -/
def label : Stage → String
  | failed => "Failed"
  | blockchain => "Blockchain"
  | governance => "Governance"
  | governanceObjects => "GovernanceObjects"
  | governanceVotes => "GovernanceVotes"
  | finished => "Finished"

def ofData? (v : Data.Value) : Option Stage := v.choice? all label

/-- A line for the operator. -/
def statusLine : Stage → String
  | failed => "Synchronization failed"
  | blockchain => "Synchronizing blockchain..."
  | governance => "Synchronizing governance..."
  | governanceObjects => "Synchronizing governance objects..."
  | governanceVotes => "Synchronizing governance votes..."
  | finished => "Synchronization finished"

end Stage

end QuorumNode.Sync
