/-
The state of a sync and the small moves that all operations are made of:
restarting, entering a stage, asking a peer, giving up.  The time and the
connected peers are inputs; nothing here reads a clock or a socket.
-/
import QuorumNode.Sync.Event
import QuorumNode.Sync.Request
import QuorumNode.Sync.Settings

namespace QuorumNode.Sync

/-- The best height each peer has advertised, every peer at most once. -/
abbrev Heights := List (Peer × Nat)

namespace Heights

def height? (heights : Heights) (peer : Peer) : Option Nat :=
  (heights.find? (·.1 = peer)).map (·.2)

def record (heights : Heights) (peer : Peer) (height : Nat) : Heights :=
  (peer, height) :: heights.filter (·.1 ≠ peer)

@[simp] theorem height?_record_self (heights : Heights) (peer : Peer) (height : Nat) :
    (heights.record peer height).height? peer = some height := by
  simp [height?, record]

theorem height?_record_of_ne {peer other : Peer} (hne : other ≠ peer)
    (heights : Heights) (height : Nat) :
    (heights.record peer height).height? other = heights.height? other := by
  have hskip : ((peer, height).1 = other) = False := by simp [Ne.symm hne]
  have hkept : (heights.filter (·.1 ≠ peer)).find? (·.1 = other) =
      heights.find? (·.1 = other) := by
    induction heights with
    | nil => rfl
    | cons entry rest ih =>
        by_cases hpeer : entry.1 = peer
        · rw [List.filter_cons_of_neg (by simp [hpeer]), ih, List.find?_cons_of_neg]
          simp [hpeer, Ne.symm hne]
        · rw [List.filter_cons_of_pos (by simp [hpeer]), List.find?_cons, List.find?_cons, ih]
  simp only [height?, record, List.find?_cons, hskip, decide_false, hkept]

/-- Forgets every peer that is not connected. -/
def keep (heights : Heights) (peers : List Peer) : Heights :=
  heights.filter (·.1 ∈ peers)

/-- Whether no peer has advertised more than `height`. -/
def within (heights : Heights) (height : Nat) : Bool :=
  heights.all (·.2 ≤ height)

end Heights

/-- `attempt` counts the timeouts of the current stage, `tried` holds the peers
that were asked for it.  Progress moves `bumpedAt`, a tick that was due moves
`tickedAt`. -/
structure State where
  stage : Stage
  attempt : Nat
  tried : List Peer
  current : Option Peer
  startedAt : Int
  bumpedAt : Int
  failedAt : Int
  reachedBest : Bool
  tipMovedAt : Int
  bestHeader : Option BlockRef
  tip : Option BlockRef
  heights : Heights
  tickedAt : Int
  ticks : Nat
deriving DecidableEq, Repr

/-- The state after an operation, and what the operation sent out. -/
structure Outcome where
  state : State
  events : List Event
  requests : List Request
deriving DecidableEq, Repr

namespace State

def start (now : Int) : State where
  stage := .blockchain
  attempt := 0
  tried := []
  current := none
  startedAt := now
  bumpedAt := now
  failedAt := 0
  reachedBest := false
  tipMovedAt := now
  bestHeader := none
  tip := none
  heights := []
  tickedAt := now
  ticks := 0

/-- Nothing is sent out. -/
def quiet (s : State) : Outcome := ⟨s, [], []⟩

/-- Whether the tip is the best known header, told by the hashes. -/
def tipMatches (s : State) : Bool :=
  match s.tip, s.bestHeader with
  | some tip, some best => tip.hash = best.hash
  | _, _ => false

/-- Whether the tip is the best known header and no peer has advertised
more. -/
def atBest (s : State) : Bool :=
  match s.bestHeader with
  | some best => s.tipMatches && s.heights.within best.height
  | none => false

/-- Asks the first connected peer that was not asked for this stage before. -/
def ask? (peers : List Peer) (s : State) : Option (State × Request) :=
  (peers.find? (· ∉ s.tried)).map fun peer =>
    ({ s with tried := peer :: s.tried, current := some peer }, .ofStage s.stage peer)

/-- Asks if there is someone to ask. -/
def ask (peers : List Peer) (s : State) : Outcome :=
  match s.ask? peers with
  | some (asked, request) => ⟨asked, [], [request]⟩
  | none => s.quiet

/-- Back to the first stage.  The chain that was seen and the ticks stay. -/
def restart (now : Int) (notify : Bool) (s : State) : Outcome where
  state :=
    { s with
      stage := .blockchain
      attempt := 0
      tried := []
      current := none
      startedAt := now
      bumpedAt := now
      failedAt := 0
      reachedBest := false
      tipMovedAt := now
      heights := [] }
  events := if notify then [.reset] else []
  requests := []

/-- Goes on to `next` and, unless that is the end, asks a peer for it. -/
def enter (now : Int) (peers : List Peer) (next : Stage) (s : State) : Outcome :=
  let fresh :=
    { s with
      stage := next
      attempt := 0
      tried := []
      current := none
      startedAt := now
      bumpedAt := now }
  let asked := if next = .finished then fresh.quiet else fresh.ask peers
  { asked with events := [.switched s.stage next] }

/-- Goes on to the stage that follows, if there is one. -/
def advance (now : Int) (peers : List Peer) (s : State) : Outcome :=
  match s.stage.next? with
  | some next => s.enter now peers next
  | none => s.quiet

/-- Notes progress; a finished sync makes none. -/
def bump (now : Int) (s : State) : State :=
  if s.stage = .finished then s else { s with bumpedAt := now }

/-- Notes progress of the blockchain stage only. -/
def bumpBlockchain (now : Int) (s : State) : State :=
  if s.stage = .blockchain then s.bump now else s

/-- No peer is left to ask, or the stage was asked for too often. -/
def fail (now : Int) (s : State) : Outcome :=
  ⟨{ s with stage := .failed, current := none, failedAt := now }, [.failed s.stage], []⟩

/-- Marks the best header as reached if it is. -/
def noteBest (s : State) : State :=
  if s.atBest then { s with reachedBest := true } else s

/-- Whether the chain has been synchronised. -/
def blockchainSynced (s : State) : Bool :=
  Stage.blockchain.id < s.stage.id

end State

end QuorumNode.Sync
