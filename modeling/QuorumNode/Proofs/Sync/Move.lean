/-
A second view of a step.  A call first notes what it was told about the chain
and the time, which leaves the session alone; then it decides on one move, and
the move acts on the session.  `outcome_eq_act` says that this is what a step
does.
-/
import QuorumNode.Proofs.Sync.Reception

namespace QuorumNode.Sync

/-- The ways in which a step can treat the session.  A move names the peer it
asks. -/
inductive Move where
  | rest
  | bump
  | restart (notify : Bool)
  | enter (next : Stage) (asked : Option Peer)
  | ask (peer : Peer)
  | retry (peer : Peer)
  | fail
deriving DecidableEq, Repr

namespace State

/-! What a call notes -/

/-- The tip that is known after a call. -/
def notedTip (s : State) (call : Call) : Option BlockRef :=
  match call.op with
  | .blockTip tip _ => some tip
  | _ => s.tip

/-- The best header that is known after a call. -/
def notedBest (s : State) (call : Call) : Option BlockRef :=
  match call.op with
  | .headerTip header _ => some header
  | _ => s.bestHeader

/-- The heights that are on record after a call, unless it restarts. -/
def notedHeights (s : State) (call : Call) : Heights :=
  match call.op with
  | .receive sender (.bestHeight height) => s.heights.record sender height
  | .tick | .maintain => s.heights.keep call.peers
  | _ => s.heights

/-- When the tip last moved, unless the call restarts. -/
def notedTipMove (s : State) (call : Call) : Int :=
  match call.op with
  | .blockTip .. => call.now
  | _ => s.tipMovedAt

/-- A tick that comes too early is no reference for the next one. -/
def notedTick (cfg : Settings) (s : State) (call : Call) : Int :=
  if call.op.ticks = true ∧
      (cfg.suspendRestart < call.now - s.tickedAt ∨ cfg.tick ≤ call.now - s.tickedAt)
  then call.now
  else s.tickedAt

/-- Whether a call looks at the tip and finds it stale. -/
def drops (cfg : Settings) (s : State) (call : Call) : Bool :=
  match call.op with
  | .checkTip | .maintain => s.tipIsStale cfg call.now
  | _ => false

/-- Whether a call shows the tip to be at the best header. -/
def confirms (s : State) (call : Call) : Bool :=
  match call.op with
  | .headerTip _ initialDownload | .blockTip _ initialDownload =>
      !s.stage.terminal && !initialDownload &&
        atBest { s with tip := s.notedTip call, bestHeader := s.notedBest call }
  | _ => false

/-- Whether the best header is reached after a call, unless it restarts. -/
def notedReached (cfg : Settings) (s : State) (call : Call) : Bool :=
  (s.reachedBest && !s.drops cfg call) || s.confirms call

/-- The state with all that a call notes, before the call makes its move. -/
def note (cfg : Settings) (s : State) (call : Call) : State :=
  { s with
    reachedBest := s.notedReached cfg call
    tipMovedAt := s.notedTipMove call
    bestHeader := s.notedBest call
    tip := s.notedTip call
    heights := s.notedHeights call
    tickedAt := s.notedTick cfg call
    ticks := if call.op.ticks then s.ticks + 1 else s.ticks }

@[simp] theorem note_stage (cfg : Settings) (s : State) (call : Call) :
    (s.note cfg call).stage = s.stage := rfl

/-! How a call decides -/

/-- The first connected peer that was not asked for this stage before. -/
def untried? (s : State) (peers : List Peer) : Option Peer :=
  peers.find? (· ∉ s.tried)

/-- On to the stage that follows; only the last one is not asked for. -/
def forward (s : State) (peers : List Peer) : Move :=
  match s.stage.next? with
  | some next => .enter next (if next = .finished then none else peers.head?)
  | none => .rest

/-- A retry costs one of the attempts and needs a peer that is left. -/
def timeOutMove (cfg : Settings) (s : State) (peers : List Peer) : Move :=
  match s.untried? peers with
  | some peer => if s.attempt < cfg.maxAttempts then .retry peer else .fail
  | none => .fail

/-- The first request of a stage that found nobody to ask when it began. -/
def askMove (s : State) (peers : List Peer) : Move :=
  match s.untried? peers with
  | some peer => .ask peer
  | none => .rest

/-- What a tick decides that comes neither late nor early. -/
def dueMove (cfg : Settings) (s : State) (now : Int) (peers : List Peer) : Move :=
  if s.stage.terminal then .rest
  else if s.stage = .blockchain ∧ s.reachedBest = true ∧
      cfg.quietPeriod peers < now - s.bumpedAt then
    s.forward peers
  else if cfg.timeout < now - s.bumpedAt then s.timeOutMove cfg peers
  else if s.current = none then s.askMove peers
  else .rest

/-- A tick after a suspension restarts, one that comes too early does
nothing. -/
def tickMove (cfg : Settings) (s : State) (call : Call) : Move :=
  if cfg.suspendRestart < call.now - s.tickedAt then
    if s.stage = .failed then .rest else .restart true
  else if call.now - s.tickedAt < cfg.tick then .rest
  else (s.note cfg call).dueMove cfg call.now call.peers

/-- Progress of the blockchain stage counts in that stage only. -/
def blockchainMove (s : State) : Move :=
  if s.stage = .blockchain then .bump else .rest

/-- What a call decides on. -/
def move (cfg : Settings) (s : State) (call : Call) : Move :=
  match call.op with
  | .reset force notify => if s.resets force then .restart notify else .rest
  | .advance => s.forward call.peers
  | .bump => if s.stage = .finished then .rest else .bump
  | .receive _ message =>
      match s.disposition message with
      | .completed => s.forward call.peers
      | .progress => .bump
      | _ => .rest
  | .tick | .maintain => s.tickMove cfg call
  | .acceptHeader _ => if s.reachedBest then .rest else s.blockchainMove
  | .headerTip .. => s.blockchainMove
  | .blockTip .. => if s.restarts cfg call then .restart true else s.blockchainMove
  | .checkTip => .rest

/-! How a move acts -/

/-- The state once `peer` has been asked. -/
def contact (s : State) (peer : Peer) : State :=
  { s with tried := peer :: s.tried, current := some peer }

/-- The state of a stage that has just been entered, with the peer asked for
it. -/
def entered (s : State) (now : Int) (stage : Stage) (asked : Option Peer) : State :=
  { s with
    stage
    attempt := 0
    tried := asked.toList
    current := asked
    startedAt := now
    bumpedAt := now }

/-- What a move does to the session, and what it sends out. -/
def act (s : State) (now : Int) : Move → Outcome
  | .rest => s.quiet
  | .bump => quiet { s with bumpedAt := now }
  | .restart notify => s.restart now notify
  | .enter next asked =>
      ⟨s.entered now next asked, [.switched s.stage next],
        (asked.map (Request.ofStage next)).toList⟩
  | .ask peer => ⟨s.contact peer, [], [.ofStage s.stage peer]⟩
  | .retry peer =>
      ⟨{ s.contact peer with attempt := s.attempt + 1, bumpedAt := now }, [],
        [.ofStage s.stage peer]⟩
  | .fail => fail now { s with attempt := s.attempt + 1 }

/-! Noting, deciding and acting make up a step -/

theorem ask?_eq_map (s : State) (peers : List Peer) :
    s.ask? peers =
      (s.untried? peers).map fun peer => (s.contact peer, .ofStage s.stage peer) := rfl

theorem enter_eq_act (s : State) (now : Int) (peers : List Peer) (next : Stage) :
    s.enter now peers next =
      s.act now (.enter next (if next = .finished then none else peers.head?)) := by
  by_cases hnext : next = .finished
  · simp [enter, act, hnext, entered, quiet]
  · cases peers with
    | nil => simp [enter, act, hnext, entered, quiet, ask, ask?]
    | cons peer rest => simp [enter, act, hnext, entered, ask, ask?]

theorem advance_eq_act (s : State) (now : Int) (peers : List Peer) :
    s.advance now peers = s.act now (s.forward peers) := by
  unfold advance forward
  cases s.stage.next? with
  | none => rfl
  | some next => exact s.enter_eq_act now peers next

theorem ask_eq_act (s : State) (now : Int) (peers : List Peer) :
    s.ask peers = s.act now (s.askMove peers) := by
  rw [ask, ask?_eq_map, askMove]
  cases s.untried? peers <;> rfl

theorem timeOut_eq_act (cfg : Settings) (s : State) (now : Int) (peers : List Peer) :
    s.timeOut cfg now peers = s.act now (s.timeOutMove cfg peers) := by
  have hsame : untried? { s with attempt := s.attempt + 1 } peers = s.untried? peers := rfl
  rw [timeOut, ask?_eq_map, hsame, timeOutMove]
  by_cases hleft : s.attempt < cfg.maxAttempts
  · rw [if_neg (Nat.not_lt.mpr hleft)]
    cases s.untried? peers with
    | none => rfl
    | some peer => simp [hleft, act, contact]
  · rw [if_pos (Nat.lt_succ_of_le (Nat.not_lt.mp hleft))]
    cases s.untried? peers with
    | none => rfl
    | some peer => simp [hleft, act]

theorem dueTick_eq_act (cfg : Settings) (s : State) (now : Int) (peers : List Peer) :
    s.dueTick cfg now peers = s.act now (s.dueMove cfg now peers) := by
  unfold dueTick dueMove
  split
  · rfl
  split
  · exact s.advance_eq_act now peers
  split
  · exact s.timeOut_eq_act cfg now peers
  split
  · exact s.ask_eq_act now peers
  · rfl

theorem bump_quiet (s : State) (now : Int) (hstage : s.stage ≠ .finished) :
    (s.bump now).quiet = s.act now .bump := by
  rw [bump, if_neg hstage, act]

theorem bumpBlockchain_quiet (s : State) (now : Int) :
    (s.bumpBlockchain now).quiet = s.act now s.blockchainMove := by
  unfold bumpBlockchain blockchainMove
  by_cases hstage : s.stage = .blockchain
  · rw [if_pos hstage, if_pos hstage, s.bump_quiet now (by simp [hstage])]
  · rw [if_neg hstage, if_neg hstage]
    rfl

theorem bumpBlockchain_eq (s : State) (now : Int) :
    s.bumpBlockchain now =
      { s with bumpedAt := if s.stage = .blockchain then now else s.bumpedAt } := by
  unfold bumpBlockchain
  split
  · next hstage => rw [bump, if_neg (by simp [hstage])]
  · rfl

theorem checkTip_eq (cfg : Settings) (s : State) (now : Int) :
    s.checkTip cfg now = { s with reachedBest := s.reachedBest && !s.tipIsStale cfg now } := by
  unfold checkTip
  cases hstale : s.tipIsStale cfg now <;> simp

theorem noteBest_eq (s : State) :
    s.noteBest = { s with reachedBest := s.reachedBest || s.atBest } := by
  unfold noteBest
  cases hbest : s.atBest <;> simp

theorem tipMatches_of_tip (s : State) (tip : BlockRef) :
    tipMatches { s with tip := some tip } =
      (s.bestHeader.map BlockRef.hash == some tip.hash) := by
  unfold tipMatches
  cases s.bestHeader with
  | none => rfl
  | some best => simp [eq_comm, Bool.beq_eq_decide_eq]

/-- Progress of the stage has no say in whether the best header is reached. -/
theorem noteBest_bumpBlockchain (s : State) (now : Int) :
    (s.bumpBlockchain now).noteBest =
      bumpBlockchain now { s with reachedBest := s.reachedBest || s.atBest } := by
  rw [noteBest_eq, bumpBlockchain_eq, bumpBlockchain_eq]
  rfl

theorem stage_ne_blockchain_of_terminal {s : State} (hterminal : s.stage.terminal = true) :
    s.stage ≠ .blockchain := by
  intro hstage
  simp [hstage, Stage.terminal] at hterminal

/-- Calls that say nothing about the chain or the time leave nothing to note. -/
theorem note_eq_self {cfg : Settings} {s : State} {call : Call}
    (hsilent : match call.op with
      | .reset .. | .advance | .bump | .acceptHeader _ => True
      | .receive _ message => ∀ height, message ≠ .bestHeight height
      | _ => False) : s.note cfg call = s := by
  obtain ⟨now, peers, op⟩ := call
  have hreached : s.notedReached cfg ⟨now, peers, op⟩ = s.reachedBest := by
    cases op <;> simp_all [notedReached, drops, confirms]
  rw [note, hreached]
  cases op with
  | receive sender message => cases message <;> simp_all <;> rfl
  | _ => simp at hsilent <;> rfl

theorem receive_eq_act (s : State) (now : Int) (peers : List Peer) (sender : Peer)
    {message : Message} (hmessage : ∀ height, message ≠ .bestHeight height) :
    s.receive now peers sender message = s.act now
      (match s.disposition message with
        | .completed => s.forward peers
        | .progress => .bump
        | _ => .rest) := by
  unfold receive
  cases hdisposition : s.disposition message with
  | completed => simp [s.advance_eq_act now peers]
  | progress => simp [s.bump_quiet now (stage_ne_finished_of_progress hdisposition)]
  | recorded =>
      cases message with
      | bestHeight height => exact absurd rfl (hmessage height)
      | _ => rfl
  | stale => rfl
  | ignored => rfl

/-- Ticks and maintenance differ only in what they note. -/
theorem tick_eq_act (cfg : Settings) (s : State) (call : Call) (hticks : call.op.ticks = true) :
    tick cfg call.now call.peers { s with reachedBest := s.notedReached cfg call } =
      (s.note cfg call).act call.now (s.tickMove cfg call) := by
  have hnote : s.note cfg call =
      { s with
        reachedBest := s.notedReached cfg call
        heights := s.heights.keep call.peers
        tickedAt := s.notedTick cfg call
        ticks := s.ticks + 1 } := by
    obtain ⟨now, peers, op⟩ := call
    cases op <;> simp [Operation.ticks] at hticks <;> rfl
  unfold tick tickMove
  by_cases hlate : cfg.suspendRestart < call.now - s.tickedAt
  · have htick : s.notedTick cfg call = call.now := by simp [notedTick, hticks, hlate]
    rw [hnote, htick, if_pos hlate, if_pos hlate]
    split <;> rfl
  · rw [if_neg hlate, if_neg hlate]
    by_cases hearly : call.now - s.tickedAt < cfg.tick
    · have htick : s.notedTick cfg call = s.tickedAt := by
        rw [notedTick, if_neg (by simp [hlate, hearly])]
      rw [hnote, htick, if_pos hearly, if_pos hearly]
      rfl
    · have htick : s.notedTick cfg call = call.now := by
        rw [notedTick, if_pos ⟨hticks, Or.inr (Int.not_lt.mp hearly)⟩]
      rw [if_neg hearly, if_neg hearly, ← dueTick_eq_act, hnote, htick]

theorem headerTip_eq_act (cfg : Settings) (s : State) (now : Int) (peers : List Peer)
    (header : BlockRef) (initialDownload : Bool) :
    (s.headerTip now header initialDownload).quiet =
      (s.note cfg ⟨now, peers, .headerTip header initialDownload⟩).act now s.blockchainMove := by
  let call : Call := ⟨now, peers, .headerTip header initialDownload⟩
  let seen : State := { s with bestHeader := some header }
  have hconfirms : s.confirms call =
      (!s.stage.terminal && !initialDownload && seen.atBest) := rfl
  have hnote : s.note cfg call =
      { seen with
        reachedBest := s.reachedBest ||
          (!s.stage.terminal && !initialDownload && seen.atBest) } := by
    rw [note, notedReached, hconfirms]
    simp [call, seen, drops, notedTip, notedBest, notedHeights, notedTipMove, notedTick,
      Operation.ticks]
  have hact : (s.note cfg call).act now s.blockchainMove =
      ((s.note cfg call).bumpBlockchain now).quiet :=
    (bumpBlockchain_quiet (s.note cfg call) now).symm
  have hheader : s.headerTip now header initialDownload =
      if s.stage.terminal then seen
      else if initialDownload || s.reachedBest then seen.bumpBlockchain now
      else (seen.bumpBlockchain now).noteBest := rfl
  change (s.headerTip now header initialDownload).quiet =
    (s.note cfg call).act now s.blockchainMove
  rw [hact, hnote, hheader, noteBest_bumpBlockchain]
  cases hterminal : s.stage.terminal with
  | true =>
      have hstage := stage_ne_blockchain_of_terminal hterminal
      simp [bumpBlockchain, hstage, seen]
  | false =>
      cases initialDownload <;> cases hreached : s.reachedBest <;> simp [seen, hreached]

theorem blockTip_eq_act (cfg : Settings) (s : State) (now : Int) (peers : List Peer)
    (tip : BlockRef) (initialDownload : Bool) :
    s.blockTip now tip initialDownload =
      (s.note cfg ⟨now, peers, .blockTip tip initialDownload⟩).act now
        (s.move cfg ⟨now, peers, .blockTip tip initialDownload⟩) := by
  let call : Call := ⟨now, peers, .blockTip tip initialDownload⟩
  let seen : State := { s with tipMovedAt := now, tip := some tip }
  have hconfirms : s.confirms call =
      (!s.stage.terminal && !initialDownload && seen.atBest) := rfl
  have hnote : s.note cfg call =
      { seen with
        reachedBest := s.reachedBest ||
          (!s.stage.terminal && !initialDownload && seen.atBest) } := by
    rw [note, notedReached, hconfirms]
    simp [call, seen, drops, notedTip, notedBest, notedHeights, notedTipMove, notedTick,
      Operation.ticks]
  have hact : (s.note cfg call).act now s.blockchainMove =
      ((s.note cfg call).bumpBlockchain now).quiet :=
    (bumpBlockchain_quiet (s.note cfg call) now).symm
  have hmatches : (seen.bumpBlockchain now).tipMatches =
      (s.bestHeader.map BlockRef.hash == some tip.hash) := by
    rw [← tipMatches_of_tip, bumpBlockchain_eq]
    rfl
  have htip : s.blockTip now tip initialDownload =
      if s.stage.terminal then seen.quiet
      else if initialDownload then (seen.bumpBlockchain now).quiet
      else if s.reachedBest then
        if (seen.bumpBlockchain now).tipMatches then (seen.bumpBlockchain now).quiet
        else (seen.bumpBlockchain now).restart now true
      else (seen.bumpBlockchain now).noteBest.quiet := rfl
  have hmove : s.move cfg call =
      if s.restarts cfg call then .restart true else s.blockchainMove := rfl
  change s.blockTip now tip initialDownload = (s.note cfg call).act now (s.move cfg call)
  rw [htip, hmove, hmatches, noteBest_bumpBlockchain]
  cases hrestarts : s.restarts cfg call with
  | true =>
      simp only [restarts, call, Bool.and_eq_true, Bool.not_eq_true', bne_iff_ne] at hrestarts
      obtain ⟨⟨⟨hterminal, hdownload⟩, hreached⟩, hdiffers⟩ := hrestarts
      simp [hterminal, hdownload, hreached, hdiffers, hnote, act, restart, bumpBlockchain_eq,
        seen]
  | false =>
      rw [if_neg Bool.false_ne_true, hact, hnote]
      cases hterminal : s.stage.terminal with
      | true =>
          have hstage := stage_ne_blockchain_of_terminal hterminal
          simp [bumpBlockchain, hstage, seen]
      | false =>
          cases initialDownload with
          | true => simp [seen]
          | false =>
              cases hreached : s.reachedBest with
              | false => simp [seen, hreached]
              | true =>
                  have hsame : s.bestHeader.map BlockRef.hash = some tip.hash := by
                    simpa [restarts, call, hterminal, hreached] using hrestarts
                  simp [hsame, seen, hreached]

/-- A step is what the call notes, and then the move it decides on. -/
theorem outcome_eq_act (cfg : Settings) (s : State) (call : Call) :
    s.outcome cfg call = (s.note cfg call).act call.now (s.move cfg call) := by
  obtain ⟨now, peers, op⟩ := call
  cases op with
  | reset force notify =>
      rw [note_eq_self trivial]
      change s.reset now force notify =
        s.act now (if s.resets force then .restart notify else .rest)
      unfold reset
      split <;> rfl
  | advance =>
      rw [note_eq_self trivial]
      exact s.advance_eq_act now peers
  | bump =>
      rw [note_eq_self trivial]
      change (s.bump now).quiet = s.act now (if s.stage = .finished then .rest else .bump)
      unfold bump
      split <;> rfl
  | receive sender message =>
      cases message with
      | bestHeight height =>
          have hreached : s.notedReached cfg ⟨now, peers, .receive sender (.bestHeight height)⟩ =
              s.reachedBest := by
            simp [notedReached, drops, confirms]
          rw [note, hreached]
          rfl
      | _ =>
          rw [note_eq_self (by simp)]
          exact s.receive_eq_act now peers sender (by simp)
  | tick =>
      have hreached : s.notedReached cfg ⟨now, peers, .tick⟩ = s.reachedBest := by
        simp [notedReached, drops, confirms]
      have htick := s.tick_eq_act cfg ⟨now, peers, .tick⟩ rfl
      rw [hreached] at htick
      exact htick
  | maintain =>
      have hreached : s.notedReached cfg ⟨now, peers, .maintain⟩ =
          (s.reachedBest && !s.tipIsStale cfg now) := by
        simp [notedReached, drops, confirms]
      have htick := s.tick_eq_act cfg ⟨now, peers, .maintain⟩ rfl
      rw [hreached, ← checkTip_eq] at htick
      exact htick
  | acceptHeader header =>
      rw [note_eq_self trivial]
      change (s.acceptHeader now).quiet =
        s.act now (if s.reachedBest then .rest else s.blockchainMove)
      unfold acceptHeader
      split
      · rfl
      · exact s.bumpBlockchain_quiet now
  | headerTip header initialDownload =>
      exact s.headerTip_eq_act cfg now peers header initialDownload
  | blockTip tip initialDownload =>
      exact s.blockTip_eq_act cfg now peers tip initialDownload
  | checkTip =>
      have hreached : s.notedReached cfg ⟨now, peers, .checkTip⟩ =
          (s.reachedBest && !s.tipIsStale cfg now) := by
        simp [notedReached, drops, confirms]
      change (s.checkTip cfg now).quiet = (s.note cfg ⟨now, peers, .checkTip⟩).quiet
      rw [checkTip_eq, note, hreached]
      rfl

end State

end QuorumNode.Sync
