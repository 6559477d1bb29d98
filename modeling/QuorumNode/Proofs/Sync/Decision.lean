/-
When a call decides on each move, and what the moves leave behind.  Later proofs
split a step by its move and read off both here.
-/
import QuorumNode.Proofs.Sync.Move

namespace QuorumNode.Sync

/-- Whether a restart by the operation is made known. -/
def Operation.notifies : Operation → Bool
  | reset _ notify => notify
  | _ => true

namespace State

/-- A tick that comes neither late nor early. -/
def Due (cfg : Settings) (s : State) (call : Call) : Prop :=
  call.op.ticks = true ∧ cfg.tick ≤ call.now - s.tickedAt ∧
    call.now - s.tickedAt ≤ cfg.suspendRestart

/-- A due tick that finds a caught-up blockchain which has been quiet for long
enough. -/
def Settled (cfg : Settings) (s : State) (call : Call) : Prop :=
  s.Due cfg call ∧ s.stage = .blockchain ∧ s.notedReached cfg call = true ∧
    cfg.quietPeriod call.peers < call.now - s.bumpedAt

/-- A peer says that it has served all of the present stage. -/
def Served (s : State) (call : Call) : Prop :=
  ∃ sender count, call.op = .receive sender (.statusCount s.stage.id count)

/-- A due tick that finds a stage silent for too long. -/
def Silent (cfg : Settings) (s : State) (call : Call) : Prop :=
  s.Due cfg call ∧ s.stage.terminal = false ∧ cfg.timeout < call.now - s.bumpedAt

/-- What has to hold for a call to decide on a move. -/
def Allows (cfg : Settings) (s : State) (call : Call) : Move → Prop
  | .rest => True
  | .bump => s.stage ≠ .finished
  | .restart _ => s.restarts cfg call = true
  | .enter next asked =>
      s.stage.next? = some next ∧
        asked = (if next = .finished then none else call.peers.head?) ∧
        (call.op = .advance ∨ s.Served call ∨ s.Settled cfg call)
  | .ask peer =>
      s.Due cfg call ∧ s.stage.terminal = false ∧ s.current = none ∧
        s.untried? call.peers = some peer
  | .retry peer =>
      s.Silent cfg call ∧ s.attempt < cfg.maxAttempts ∧ s.untried? call.peers = some peer
  | .fail =>
      s.Silent cfg call ∧ (cfg.maxAttempts ≤ s.attempt ∨ s.untried? call.peers = none)

variable {cfg : Settings} {s : State} {call : Call}

theorem allows_forward
    (hcause : call.op = .advance ∨ s.Served call ∨ s.Settled cfg call) :
    s.Allows cfg call (s.forward call.peers) := by
  unfold forward
  cases hnext : s.stage.next? with
  | none => trivial
  | some next => exact ⟨hnext, rfl, hcause⟩

theorem allows_blockchainMove : s.Allows cfg call s.blockchainMove := by
  unfold blockchainMove
  split
  · next hstage => exact fun hfinished => by simp [hstage] at hfinished
  · trivial

theorem served_of_completed {now : Int} {peers : List Peer} {sender : Peer} {message : Message}
    (hcompleted : s.disposition message = .completed) :
    s.Served ⟨now, peers, .receive sender message⟩ := by
  obtain ⟨-, hitem⟩ := (s.disposition_eq_iff message .completed).mp hcompleted
  cases message with
  | statusCount item count => exact ⟨sender, count, by rw [Option.some.inj hitem]⟩
  | _ => cases hitem

theorem allows_dueMove (hdue : s.Due cfg call) :
    s.Allows cfg call ((s.note cfg call).dueMove cfg call.now call.peers) := by
  unfold dueMove
  split
  · trivial
  next hrunning =>
  have hrunning : s.stage.terminal = false := by simpa using hrunning
  split
  · next hsettled => exact allows_forward (Or.inr (Or.inr ⟨hdue, hsettled⟩))
  split
  · next hsilent =>
      have hsilent : s.Silent cfg call := ⟨hdue, hrunning, hsilent⟩
      change s.Allows cfg call (s.timeOutMove cfg call.peers)
      unfold timeOutMove
      cases huntried : s.untried? call.peers with
      | none => exact ⟨hsilent, Or.inr huntried⟩
      | some peer =>
          by_cases hleft : s.attempt < cfg.maxAttempts
          · simp only [hleft, ↓reduceIte]
            exact ⟨hsilent, hleft, huntried⟩
          · simp only [hleft, ↓reduceIte]
            exact ⟨hsilent, Or.inl (Nat.not_lt.mp hleft)⟩
  split
  · next hcurrent =>
      change s.Allows cfg call (s.askMove call.peers)
      unfold askMove
      cases huntried : s.untried? call.peers with
      | none => trivial
      | some peer => exact ⟨hdue, hrunning, hcurrent, huntried⟩
  · trivial

theorem allows_tickMove (hticks : call.op.ticks = true) :
    s.Allows cfg call (s.tickMove cfg call) := by
  unfold tickMove
  split
  · next hlate =>
      split
      · trivial
      · next hstage =>
          obtain ⟨now, peers, op⟩ := call
          cases op <;> simp_all [Operation.ticks, Allows, restarts]
  · next hlate =>
      split
      · trivial
      · next hearly =>
          exact allows_dueMove ⟨hticks, Int.not_lt.mp hearly, Int.not_lt.mp hlate⟩

theorem allows_move (cfg : Settings) (s : State) (call : Call) :
    s.Allows cfg call (s.move cfg call) := by
  obtain ⟨now, peers, op⟩ := call
  cases op with
  | reset force notify =>
      change s.Allows cfg _ (if s.resets force then .restart notify else .rest)
      split
      · next hresets => exact hresets
      · trivial
  | advance => exact allows_forward (Or.inl rfl)
  | bump =>
      change s.Allows cfg _ (if s.stage = .finished then .rest else .bump)
      split
      · trivial
      · next hstage => exact hstage
  | receive sender message =>
      unfold move
      cases hdisposition : s.disposition message with
      | completed =>
          have hserved : s.Served ⟨now, peers, .receive sender message⟩ :=
            served_of_completed hdisposition
          simp only [hdisposition]
          exact allows_forward (Or.inr (Or.inl hserved))
      | progress =>
          simp only [hdisposition]
          exact stage_ne_finished_of_progress hdisposition
      | _ => simp only [hdisposition]; trivial
  | tick => exact allows_tickMove rfl
  | maintain => exact allows_tickMove rfl
  | acceptHeader header =>
      change s.Allows cfg _ (if s.reachedBest then .rest else s.blockchainMove)
      split
      · trivial
      · exact allows_blockchainMove
  | headerTip header initialDownload => exact allows_blockchainMove
  | blockTip tip initialDownload =>
      unfold move
      cases hrestarts : s.restarts cfg ⟨now, peers, .blockTip tip initialDownload⟩ with
      | true => exact hrestarts
      | false => exact allows_blockchainMove
  | checkTip => trivial

theorem move_of_ticks (hticks : call.op.ticks = true) :
    s.move cfg call = s.tickMove cfg call := by
  obtain ⟨now, peers, op⟩ := call
  cases op <;> first | rfl | cases hticks

/-- A restart is told to the observers, unless it is a reset that asks for silence. -/
theorem move_of_restarts (hrestarts : s.restarts cfg call = true) :
    s.move cfg call = .restart call.op.notifies := by
  obtain ⟨now, peers, op⟩ := call
  cases op with
  | reset force notify => exact if_pos hrestarts
  | tick | maintain =>
      simp only [restarts, Bool.and_eq_true, decide_eq_true_eq, bne_iff_ne] at hrestarts
      change s.tickMove cfg _ = .restart true
      rw [tickMove, if_pos hrestarts.1, if_neg hrestarts.2]
  | blockTip tip initialDownload => exact if_pos hrestarts
  | _ => cases hrestarts

/-- Only restarts restart. -/
theorem restarts_eq_true_iff :
    s.restarts cfg call = true ↔ ∃ notify, s.move cfg call = .restart notify := by
  constructor
  · intro hrestarts
    exact ⟨call.op.notifies, move_of_restarts hrestarts⟩
  · rintro ⟨notify, hmove⟩
    have hallows := s.allows_move cfg call
    rwa [hmove] at hallows

end State

/-! What a move leaves behind -/

namespace Move

/-- The stage that a move leads to. -/
def stage (before : Stage) : Move → Stage
  | restart _ => .blockchain
  | enter next _ => next
  | fail => .failed
  | _ => before

/-- The peer that a move asks. -/
def asked : Move → Option Peer
  | enter _ asked => asked
  | ask peer | retry peer => some peer
  | _ => none

/-- The peers that were asked for the stage after a move. -/
def tried (before : List Peer) : Move → List Peer
  | restart _ => []
  | enter _ asked => asked.toList
  | ask peer | retry peer => peer :: before
  | _ => before

/-- The peer that was asked last for the stage after a move. -/
def current (before : Option Peer) : Move → Option Peer
  | restart _ | fail => none
  | enter _ asked => asked
  | ask peer | retry peer => some peer
  | _ => before

/-- The timeouts of the stage after a move. -/
def attempt (before : Nat) : Move → Nat
  | restart _ | enter .. => 0
  | retry _ | fail => before + 1
  | _ => before

/-- When the stage last made progress, after a move made at `now`. -/
def bumpedAt (before now : Int) : Move → Int
  | bump | restart _ | enter .. | retry _ => now
  | _ => before

end Move

namespace State

variable (cfg : Settings) (s : State) (call : Call)

theorem after_stage : (s.after cfg call).stage = (s.move cfg call).stage s.stage := by
  rw [after, outcome_eq_act]
  cases s.move cfg call <;> rfl

theorem after_tried : (s.after cfg call).tried = (s.move cfg call).tried s.tried := by
  rw [after, outcome_eq_act]
  cases s.move cfg call <;> rfl

theorem after_current : (s.after cfg call).current = (s.move cfg call).current s.current := by
  rw [after, outcome_eq_act]
  cases s.move cfg call <;> rfl

theorem after_attempt : (s.after cfg call).attempt = (s.move cfg call).attempt s.attempt := by
  rw [after, outcome_eq_act]
  cases s.move cfg call <;> rfl

theorem after_bumpedAt :
    (s.after cfg call).bumpedAt = (s.move cfg call).bumpedAt s.bumpedAt call.now := by
  rw [after, outcome_eq_act]
  cases s.move cfg call <;> rfl

/-- Whoever is asked is asked for the stage that the call leads to. -/
theorem outcome_requests :
    (s.outcome cfg call).requests =
      ((s.move cfg call).asked.map (Request.ofStage (s.after cfg call).stage)).toList := by
  rw [after_stage, outcome_eq_act]
  cases s.move cfg call <;> rfl

/-! What a call leaves of all that it noted -/

theorem after_tip : (s.after cfg call).tip = s.notedTip call := by
  rw [after, outcome_eq_act]
  cases s.move cfg call <;> rfl

theorem after_bestHeader : (s.after cfg call).bestHeader = s.notedBest call := by
  rw [after, outcome_eq_act]
  cases s.move cfg call <;> rfl

theorem after_tickedAt : (s.after cfg call).tickedAt = s.notedTick cfg call := by
  rw [after, outcome_eq_act]
  cases s.move cfg call <;> rfl

theorem after_of_restarts {cfg : Settings} {s : State} {call : Call}
    (hrestarts : s.restarts cfg call = true) :
    ∃ notify, s.after cfg call = ((s.note cfg call).restart call.now notify).state := by
  obtain ⟨notify, hmove⟩ := restarts_eq_true_iff.mp hrestarts
  refine ⟨notify, ?_⟩
  rw [after, outcome_eq_act, hmove]
  rfl

/-- Only a restart takes back what is known of the chain. -/
theorem after_of_not_restarts {cfg : Settings} {s : State} {call : Call}
    (hrestarts : s.restarts cfg call = false) :
    (s.after cfg call).reachedBest = s.notedReached cfg call ∧
      (s.after cfg call).heights = s.notedHeights call ∧
      (s.after cfg call).tipMovedAt = s.notedTipMove call := by
  rw [after, outcome_eq_act]
  cases hmove : s.move cfg call with
  | restart notify =>
      rw [restarts_eq_true_iff.mpr ⟨notify, hmove⟩] at hrestarts
      cases hrestarts
  | _ => exact ⟨rfl, rfl, rfl⟩

theorem after_reachedBest :
    (s.after cfg call).reachedBest = (!s.restarts cfg call && s.notedReached cfg call) := by
  cases hrestarts : s.restarts cfg call with
  | true =>
      obtain ⟨notify, hafter⟩ := after_of_restarts hrestarts
      rw [hafter]
      rfl
  | false => exact (after_of_not_restarts hrestarts).1

end State

end QuorumNode.Sync
