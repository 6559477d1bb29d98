/-
How the blockchain stage ends once the best header is reached.  A tick compares the same
silence with two periods, and the one that ends the stage well is looked at first.  As long
as it is the shorter one, whatever is silent enough to time out has settled before.
-/
import QuorumNode.Proofs.Sync.Replay
import QuorumNode.Proofs.Sync.Silence

namespace QuorumNode.Sync

namespace Settings

variable {cfg : Settings} {peers more : List Peer}

theorem quietPeriod_le_timeout (hperiods : cfg.tick ≤ cfg.timeout) (peers : List Peer) :
    cfg.quietPeriod peers ≤ cfg.timeout := by
  rcases Nat.lt_or_ge cfg.fastAdvancePeers peers.length with hmany | hfew
  · rw [quietPeriod_of_many hmany]
    exact hperiods
  · exact Int.le_of_eq (quietPeriod_of_few hfew)

/-- The more peers are connected, the less quiet is asked for. -/
theorem quietPeriod_le_of_length_le (hperiods : cfg.tick ≤ cfg.timeout)
    (hmore : peers.length ≤ more.length) : cfg.quietPeriod more ≤ cfg.quietPeriod peers := by
  rcases Nat.lt_or_ge cfg.fastAdvancePeers peers.length with hmany | hfew
  · have hfast : cfg.quietPeriod peers = cfg.tick := quietPeriod_of_many hmany
    have hfaster : cfg.quietPeriod more = cfg.tick :=
      quietPeriod_of_many (Nat.lt_of_lt_of_le hmany hmore)
    exact Int.le_of_eq (hfaster.trans hfast.symm)
  · rw [quietPeriod_of_few hfew]
    exact quietPeriod_le_timeout hperiods more

end Settings

namespace State

variable {cfg : Settings} {s : State} {call : Call}

/-- A caught-up blockchain that is silent for too long has been quiet for long enough. -/
theorem settled_of_silent (hperiods : cfg.tick ≤ cfg.timeout) (hstage : s.stage = .blockchain)
    (hnoted : s.notedReached cfg call = true) (hsilent : s.Silent cfg call) :
    s.Settled cfg call := by
  obtain ⟨hdue, -, hsilence⟩ := hsilent
  have hperiod := Settings.quietPeriod_le_timeout hperiods call.peers
  exact ⟨hdue, hstage, hnoted, Int.lt_of_le_of_lt hperiod hsilence⟩

theorem attempt_after_le_of_noted (hperiods : cfg.tick ≤ cfg.timeout)
    (hstage : s.stage = .blockchain) (hnoted : s.notedReached cfg call = true) :
    (s.after cfg call).attempt ≤ s.attempt := by
  rw [← Nat.not_lt, attempt_lt_after_iff_silent]
  rintro ⟨hsilent, hunsettled⟩
  exact hunsettled (settled_of_silent hperiods hstage hnoted hsilent)

/-- What is left for a tick to decide on: it settles the stage, starts again after a
suspension, asks for the first time, or does nothing. -/
theorem move_cases_of_noted (hperiods : cfg.tick ≤ cfg.timeout) (hticks : call.op.ticks = true)
    (hstage : s.stage = .blockchain) (hnoted : s.notedReached cfg call = true) :
    (∃ asked, s.move cfg call = .enter .governance asked) ∨
      (s.restarts cfg call = true ∧ s.move cfg call = .restart true) ∨
      (s.current = none ∧
        ∃ peer, s.untried? call.peers = some peer ∧ s.move cfg call = .ask peer) ∨
      s.move cfg call = .rest := by
  have hallows := s.allows_move cfg call
  -- An attempt is counted by a retry and by a failure alone, so both are ruled out at once.
  have hattempt := attempt_after_le_of_noted hperiods hstage hnoted
  rw [← Nat.not_lt, attempt_lt_after_iff] at hattempt
  cases hmove : s.move cfg call with
  | rest => exact Or.inr (Or.inr (Or.inr rfl))
  | bump =>
      rw [move_of_ticks hticks] at hmove
      exact absurd hmove tickMove_ne_bump
  | restart notify =>
      rw [hmove] at hallows
      have htold : call.op.notifies = true := by
        obtain ⟨now, peers, op⟩ := call
        cases op <;> first | rfl | cases hticks
      have hrestart := move_of_restarts hallows
      rw [hmove, htold] at hrestart
      exact Or.inr (Or.inl ⟨hallows, hrestart⟩)
  | enter next asked =>
      rw [hmove] at hallows
      have hnext : next = .governance := eq_governance_of_next?_blockchain hstage hallows.1
      rw [hnext]
      exact Or.inl ⟨asked, rfl⟩
  | ask peer =>
      rw [hmove] at hallows
      obtain ⟨-, -, hcurrent, huntried⟩ := hallows
      exact Or.inr (Or.inr (Or.inl ⟨hcurrent, peer, huntried, rfl⟩))
  | retry peer => exact absurd (Or.inl ⟨peer, hmove⟩) hattempt
  | fail => exact absurd (Or.inr hmove) hattempt

/-- What such a tick leaves behind and sends out. -/
theorem outcome_cases_of_noted (hperiods : cfg.tick ≤ cfg.timeout)
    (hticks : call.op.ticks = true) (hstage : s.stage = .blockchain)
    (hnoted : s.notedReached cfg call = true) :
    let outcome := s.outcome cfg call
    let t := outcome.state
    (t.stage = .governance ∧ outcome.events = [.switched .blockchain .governance]) ∨
      (s.restarts cfg call = true ∧ t.stage = .blockchain ∧ t.attempt = 0 ∧
        outcome.events = [.reset]) ∨
      (s.current = none ∧ (t.stage = .blockchain ∧ t.attempt = s.attempt) ∧
        ∃ peer ∈ call.peers, peer ∉ s.tried ∧
          outcome.requests = [.stageData .blockchain peer]) ∨
      ((t.stage = .blockchain ∧ t.attempt = s.attempt) ∧
        outcome.events = [] ∧ outcome.requests = []) := by
  intro outcome t
  have hleads : t.stage = (s.move cfg call).stage .blockchain := by
    rw [← hstage]
    exact s.after_stage cfg call
  have hcounts : t.attempt = (s.move cfg call).attempt s.attempt := s.after_attempt cfg call
  have htells : outcome.events = (s.move cfg call).events .blockchain := by
    rw [← hstage]
    exact outcome_events cfg s call
  have hasks : outcome.requests =
      ((s.move cfg call).asked.map (Request.ofStage t.stage)).toList :=
    s.outcome_requests cfg call
  rcases move_cases_of_noted hperiods hticks hstage hnoted with
    ⟨asked, hmove⟩ | ⟨hrestarts, hmove⟩ | ⟨hcurrent, peer, huntried, hmove⟩ | hmove
  · rw [hmove] at hleads htells
    exact Or.inl ⟨hleads, htells⟩
  · rw [hmove] at hleads hcounts htells
    exact Or.inr (Or.inl ⟨hrestarts, hleads, hcounts, htells⟩)
  · rw [hmove] at hleads hcounts hasks
    obtain ⟨hpeer, hnew⟩ := untried?_eq_some huntried
    rw [hleads] at hasks
    exact Or.inr (Or.inr (Or.inl ⟨hcurrent, ⟨hleads, hcounts⟩, peer, hpeer, hnew, hasks⟩))
  · rw [hmove] at hleads hcounts htells hasks
    exact Or.inr (Or.inr (Or.inr ⟨⟨hleads, hcounts⟩, htells, hasks⟩))

/-- A tick that settles the stage also does so if more peers are connected. -/
theorem settled_of_more {now : Int} {peers more : List Peer} (hperiods : cfg.tick ≤ cfg.timeout)
    (hmore : peers.length ≤ more.length) (hsettled : s.Settled cfg ⟨now, peers, .tick⟩) :
    s.Settled cfg ⟨now, more, .tick⟩ := by
  obtain ⟨hdue, hstage, hnoted, hquiet⟩ := hsettled
  have hperiod := Settings.quietPeriod_le_of_length_le hperiods hmore
  exact ⟨hdue, hstage, hnoted, Int.lt_of_le_of_lt hperiod hquiet⟩

end State

/-- Where the ticks are no further apart than the timeout, a tick that finds the best header
reached in the blockchain stage neither counts a timeout nor fails the sync.  It goes on to
governance, starts again after a suspension, asks a peer for the first time, or leaves stage
and attempts as they are; and if it goes on to governance, it does so with more peers too. -/
theorem outcome_of_caught_up_tick (cfg : Settings) (s : State) (now : Int) (peers : List Peer)
    (hperiods : cfg.tick ≤ cfg.timeout) (hstage : s.stage = .blockchain)
    (hreached : s.reachedBest = true) :
    let outcome := s.outcome cfg ⟨now, peers, .tick⟩
    let t := outcome.state
    (t.attempt ≤ s.attempt ∧ t.stage ≠ .failed) ∧
    ((t.stage = .governance ∧ outcome.events = [.switched .blockchain .governance]) ∨
      (s.restarts cfg ⟨now, peers, .tick⟩ = true ∧ t.stage = .blockchain ∧ t.attempt = 0 ∧
        outcome.events = [.reset]) ∨
      (s.current = none ∧ (t.stage = .blockchain ∧ t.attempt = s.attempt) ∧
        ∃ peer ∈ peers, peer ∉ s.tried ∧ outcome.requests = [.stageData .blockchain peer]) ∨
      ((t.stage = .blockchain ∧ t.attempt = s.attempt) ∧
        outcome.events = [] ∧ outcome.requests = [])) ∧
    ∀ more : List Peer, peers.length ≤ more.length → t.stage = .governance →
      (s.outcome cfg ⟨now, more, .tick⟩).state.stage = .governance := by
  intro outcome t
  have hnoted : s.notedReached cfg ⟨now, peers, .tick⟩ = true := by
    simp [State.notedReached, State.drops, hreached]
  have hattempt : t.attempt ≤ s.attempt :=
    State.attempt_after_le_of_noted hperiods hstage hnoted
  have hcases := State.outcome_cases_of_noted hperiods rfl hstage hnoted
  refine ⟨⟨hattempt, ?_⟩, hcases, ?_⟩
  · intro hfailed
    rcases hcases with ⟨hleads, -⟩ | ⟨-, hleads, -⟩ | ⟨-, ⟨hleads, -⟩, -⟩ | ⟨⟨hleads, -⟩, -⟩ <;>
      cases hfailed.symm.trans hleads
  · intro more hmore hgovernance
    have hsettled : s.Settled cfg ⟨now, peers, .tick⟩ :=
      (State.settled_iff rfl).mpr ⟨hstage, hgovernance⟩
    exact ((State.settled_iff rfl).mp (State.settled_of_more hperiods hmore hsettled)).2

/-- With a timeout of no length and three peers of whom nobody was asked, a tick that comes
with the last news has a peer asked; the next one goes on to governance. -/
theorem outcome_of_caught_up_tick_no_patience :
    let cfg : Settings := { tick := 0, timeout := 0 }
    let s := (State.start 0).run cfg
      [⟨9, [], .headerTip ⟨5, ⟨7⟩⟩ false⟩, ⟨9, [], .blockTip ⟨5, ⟨7⟩⟩ false⟩]
    let peers : List Peer := ["p", "q", "r"]
    cfg.tick ≤ cfg.timeout ∧ s.stage = .blockchain ∧ s.reachedBest = true ∧
      (s.outcome cfg ⟨9, peers, .tick⟩).requests = [.stageData .blockchain "p"] ∧
      (s.outcome cfg ⟨10, peers, .tick⟩).state.stage = .governance ∧
      (s.outcome cfg ⟨10, "o" :: peers, .tick⟩).state.stage = .governance := by
  intro cfg s peers
  have hperiods : cfg.tick ≤ cfg.timeout := by decide
  have hstage : s.stage = .blockchain := by decide
  have hreached : s.reachedBest = true := by decide
  have hgovernance : (s.outcome cfg ⟨10, peers, .tick⟩).state.stage = .governance := by decide
  obtain ⟨-, -, hmore⟩ := outcome_of_caught_up_tick cfg s 10 peers hperiods hstage hreached
  exact ⟨hperiods, hstage, hreached, by decide, hgovernance,
    hmore ("o" :: peers) (by decide) hgovernance⟩

end QuorumNode.Sync
