/-
When a stage times out.  The state keeps one time for that; the history of the run
says which step moved it last.  Nothing else postpones a timeout, and a tick that
finds the stage silent for too long never fails to count one.
-/
import Mathlib.Data.List.Induction
import QuorumNode.Proofs.Sync.Evidence
import QuorumNode.Proofs.Sync.Requests

namespace QuorumNode.Sync

/-- The operations that tell of the chain. -/
def Operation.tellsOfChain : Operation → Bool
  | acceptHeader _ | headerTip .. | blockTip .. => true
  | _ => false

namespace Step

/-- A timeout that is counted without an end to the stage. -/
def Retries (cfg : Settings) (x : Step) : Prop :=
  x.before.attempt < (x.after cfg).attempt ∧ (x.after cfg).stage = x.before.stage

/-- Whether a call brings word of progress.  News of the chain is such word in the
blockchain stage only, and a header only until the best one is reached. -/
def heard (x : Step) : Bool :=
  match x.call.op with
  | .bump => true
  | .receive _ message => x.before.disposition message == .progress
  | .headerTip .. | .blockTip .. => x.before.stage == .blockchain
  | .acceptHeader _ => x.before.stage == .blockchain && !x.before.reachedBest
  | _ => false

/-- A step that shows the session to be alive: its start, another peer asked after a
timeout, or word of progress. -/
def Stirs (cfg : Settings) (x : Step) : Prop :=
  x.Opens cfg ∨ x.Retries cfg ∨ x.heard = true

instance (cfg : Settings) (x : Step) : Decidable (x.Opens cfg) :=
  inferInstanceAs (Decidable (_ ∨ _))

instance (cfg : Settings) (x : Step) : Decidable (x.Retries cfg) :=
  inferInstanceAs (Decidable (_ ∧ _))

instance (cfg : Settings) (x : Step) : Decidable (x.Stirs cfg) :=
  inferInstanceAs (Decidable (_ ∨ _ ∨ _))

end Step

namespace State

/-- A call that a session does not wait for: a message that is neither progress nor the
end of the stage, or news of the chain once the blockchain stage is over. -/
def Idle (cfg : Settings) (s : State) (call : Call) : Prop :=
  (∃ sender message, call.op = .receive sender message ∧
    (s.disposition message = .recorded ∨ s.disposition message = .stale ∨
      s.disposition message = .ignored)) ∨
  (∃ sender item count, call.op = .receive sender (.statusCount item count) ∧
    item ≠ s.stage.id) ∨
  (s.stage ≠ .blockchain ∧ call.op.tellsOfChain = true ∧ s.restarts cfg call = false)

/-- When the session last showed to be alive. -/
def lastStir (cfg : Settings) (began : Int) (calls : List Call) : Int :=
  ((start began).trace cfg calls).foldl
    (fun last x => if x.Stirs cfg then x.call.now else last) began

variable {cfg : Settings} {began : Int} {s : State} {calls : List Call} {call : Call}

theorem lastStir_concat :
    lastStir cfg began (calls ++ [call]) =
      if Step.Stirs cfg ⟨(start began).run cfg calls, call⟩ then call.now
      else lastStir cfg began calls := by
  rw [lastStir, trace_concat, List.foldl_append]
  rfl

/-! The moves behind the steps that stir -/

theorem opens_iff :
    Step.Opens cfg ⟨s, call⟩ ↔
      (∃ notify, s.move cfg call = .restart notify) ∨
        ∃ next asked, s.move cfg call = .enter next asked := by
  have hallows := s.allows_move cfg call
  have hstage := s.after_stage cfg call
  constructor
  · rintro (hrestarts | hnext)
    · exact Or.inl (restarts_eq_true_iff.mp hrestarts)
    · change s.stage.next? = some (s.after cfg call).stage at hnext
      rw [hstage] at hnext
      cases hmove : s.move cfg call with
      | restart notify => exact Or.inl ⟨notify, rfl⟩
      | enter next asked => exact Or.inr ⟨next, asked, rfl⟩
      | fail =>
          rw [hmove] at hnext
          exact absurd rfl (Stage.ne_failed_of_next? hnext)
      | rest | bump | ask | retry =>
          rw [hmove] at hnext
          cases hbefore : s.stage <;> simp [hbefore, Move.stage, Stage.next?] at hnext
  · rintro (hrestarts | ⟨next, asked, hmove⟩)
    · exact Or.inl (restarts_eq_true_iff.mpr hrestarts)
    · rw [hmove] at hallows hstage
      refine Or.inr ?_
      change s.stage.next? = some (s.after cfg call).stage
      rw [hstage]
      exact hallows.1

/-- Timeouts are counted by retries and failures only. -/
theorem attempt_lt_after_iff :
    s.attempt < (s.after cfg call).attempt ↔
      (∃ peer, s.move cfg call = .retry peer) ∨ s.move cfg call = .fail := by
  rw [after_attempt]
  cases s.move cfg call <;> simp [Move.attempt]

theorem retries_iff :
    Step.Retries cfg ⟨s, call⟩ ↔ ∃ peer, s.move cfg call = .retry peer := by
  have hallows := s.allows_move cfg call
  have hstage := s.after_stage cfg call
  constructor
  · rintro ⟨hcounts, hsame⟩
    rcases attempt_lt_after_iff.mp hcounts with hretry | hfail
    · exact hretry
    · rw [hfail] at hallows hstage
      obtain ⟨⟨-, hrunning, -⟩, -⟩ := hallows
      have hfailed : s.stage = .failed := hsame.symm.trans hstage
      exact absurd hfailed (Stage.ne_failed_of_terminal hrunning)
  · rintro ⟨peer, hmove⟩
    refine ⟨attempt_lt_after_iff.mpr (Or.inl ⟨peer, hmove⟩), ?_⟩
    change (s.after cfg call).stage = s.stage
    rw [hstage, hmove]
    rfl

theorem blockchainMove_eq_bump_iff : s.blockchainMove = .bump ↔ s.stage = .blockchain := by
  unfold blockchainMove
  split
  · next hstage => simp [hstage]
  · next hstage => simp [hstage]

theorem forward_ne_bump (peers : List Peer) : s.forward peers ≠ .bump := by
  unfold forward
  split <;> exact Move.noConfusion

/-- A tick brings no word of anything. -/
theorem tickMove_ne_bump : s.tickMove cfg call ≠ .bump := by
  intro hmove
  unfold tickMove dueMove timeOutMove askMove at hmove
  repeat' split at hmove
  all_goals first | exact forward_ne_bump _ hmove | cases hmove

theorem heard_of_bump (hmove : s.move cfg call = .bump) : Step.heard ⟨s, call⟩ = true := by
  obtain ⟨now, peers, op⟩ := call
  cases op with
  | reset force notify =>
      change (if s.resets force then Move.restart notify else .rest) = .bump at hmove
      split at hmove <;> cases hmove
  | advance => exact absurd hmove (forward_ne_bump peers)
  | bump => rfl
  | receive sender message =>
      cases hdisposition : s.disposition message with
      | progress => simp [Step.heard, hdisposition]
      | completed =>
          simp only [move, hdisposition] at hmove
          exact absurd hmove (forward_ne_bump peers)
      | recorded | stale | ignored =>
          simp only [move, hdisposition] at hmove
          cases hmove
  | tick | maintain => exact absurd hmove tickMove_ne_bump
  | acceptHeader header =>
      change (if s.reachedBest then Move.rest else s.blockchainMove) = .bump at hmove
      split at hmove
      · cases hmove
      · next hreached =>
          have hstage := blockchainMove_eq_bump_iff.mp hmove
          simp [Step.heard, hstage, hreached]
  | headerTip header initialDownload =>
      have hstage := blockchainMove_eq_bump_iff.mp hmove
      simp [Step.heard, hstage]
  | blockTip tip initialDownload =>
      change (if s.restarts cfg ⟨now, peers, .blockTip tip initialDownload⟩ then
        Move.restart true else s.blockchainMove) = .bump at hmove
      split at hmove
      · cases hmove
      · have hstage := blockchainMove_eq_bump_iff.mp hmove
        simp [Step.heard, hstage]
  | checkTip => cases hmove

/-- Word of progress counts, except after the end. -/
theorem move_of_heard (cfg : Settings) (hheard : Step.heard ⟨s, call⟩ = true) :
    s.move cfg call = .bump ∨ s.restarts cfg call = true ∨ s.stage = .finished := by
  obtain ⟨now, peers, op⟩ := call
  cases op with
  | bump =>
      by_cases hstage : s.stage = .finished
      · exact Or.inr (Or.inr hstage)
      · exact Or.inl (if_neg hstage)
  | receive sender message =>
      have hprogress : s.disposition message = .progress := by
        simpa [Step.heard] using hheard
      exact Or.inl (by simp [move, hprogress])
  | acceptHeader header =>
      obtain ⟨hstage, hreached⟩ : s.stage = .blockchain ∧ s.reachedBest = false := by
        simpa [Step.heard] using hheard
      exact Or.inl (by simp [move, blockchainMove, hstage, hreached])
  | headerTip header initialDownload =>
      have hstage : s.stage = .blockchain := by simpa [Step.heard] using hheard
      exact Or.inl (blockchainMove_eq_bump_iff.mpr hstage)
  | blockTip tip initialDownload =>
      have hstage : s.stage = .blockchain := by simpa [Step.heard] using hheard
      cases hrestarts : s.restarts cfg ⟨now, peers, .blockTip tip initialDownload⟩ with
      | true => exact Or.inr (Or.inl rfl)
      | false => exact Or.inl (by simp [move, hrestarts, blockchainMove, hstage])
  | _ => cases hheard

/-! The time on record -/

theorem restarts_of_unfinished (hbefore : s.stage = .finished)
    (hafter : (s.after cfg call).stage ≠ .finished) : s.restarts cfg call = true := by
  apply restarts_of_terminal
  · rw [hbefore]
    rfl
  · rwa [hbefore]

theorem after_bumpedAt_of_stirs (hstirs : Step.Stirs cfg ⟨s, call⟩)
    (hstage : (s.after cfg call).stage ≠ .finished) :
    (s.after cfg call).bumpedAt = call.now := by
  rcases hstirs with hopens | hretries | hheard
  · rw [after_bumpedAt]
    rcases opens_iff.mp hopens with ⟨notify, hmove⟩ | ⟨next, asked, hmove⟩
    · rw [hmove]
      rfl
    · rw [hmove]
      rfl
  · obtain ⟨peer, hmove⟩ := retries_iff.mp hretries
    rw [after_bumpedAt, hmove]
    rfl
  · rcases move_of_heard cfg hheard with hmove | hrestarts | hfinished
    · rw [after_bumpedAt, hmove]
      rfl
    · exact after_bumpedAt_of_restarts hrestarts
    · exact after_bumpedAt_of_restarts (restarts_of_unfinished hfinished hstage)

theorem after_bumpedAt_of_not_stirs (hstill : ¬Step.Stirs cfg ⟨s, call⟩) :
    (s.after cfg call).bumpedAt = s.bumpedAt := by
  rw [after_bumpedAt]
  cases hmove : s.move cfg call with
  | rest | ask | fail => rfl
  | bump => exact absurd (Or.inr (Or.inr (heard_of_bump hmove))) hstill
  | restart notify => exact absurd (Or.inl (opens_iff.mpr (Or.inl ⟨notify, hmove⟩))) hstill
  | enter next asked =>
      exact absurd (Or.inl (opens_iff.mpr (Or.inr ⟨next, asked, hmove⟩))) hstill
  | retry peer => exact absurd (Or.inr (Or.inl (retries_iff.mpr ⟨peer, hmove⟩))) hstill

/-- Until the sync is finished, the time on record is that of the last step that
stirred. -/
theorem run_bumpedAt (cfg : Settings) (began : Int) (calls : List Call)
    (hstage : ((start began).run cfg calls).stage ≠ .finished) :
    ((start began).run cfg calls).bumpedAt = lastStir cfg began calls := by
  induction calls using List.reverseRecOn with
  | nil => rfl
  | append_singleton calls call ih =>
      rw [run_concat] at hstage ⊢
      rw [lastStir_concat]
      by_cases hstirs : Step.Stirs cfg ⟨(start began).run cfg calls, call⟩
      · rw [if_pos hstirs]
        exact after_bumpedAt_of_stirs hstirs hstage
      · have hbefore : ((start began).run cfg calls).stage ≠ .finished := by
          intro hfinished
          exact hstirs (Or.inl (Or.inl (restarts_of_unfinished hfinished hstage)))
        rw [if_neg hstirs, after_bumpedAt_of_not_stirs hstirs, ih hbefore]

/-! What a silent tick does -/

theorem move_of_due (hdue : s.Due cfg call) :
    s.move cfg call = (s.note cfg call).dueMove cfg call.now call.peers := by
  obtain ⟨hticks, hearly, hlate⟩ := hdue
  rw [move_of_ticks hticks, tickMove, if_neg (Int.not_lt.mpr hlate),
    if_neg (Int.not_lt.mpr hearly)]

theorem move_of_settled (hsettled : s.Settled cfg call) :
    s.move cfg call = s.forward call.peers := by
  obtain ⟨hdue, hstage, hreached, hquiet⟩ := hsettled
  have hrunning : ¬(s.note cfg call).stage.terminal = true := by simp [hstage, Stage.terminal]
  rw [move_of_due hdue, dueMove, if_neg hrunning, if_pos ⟨hstage, hreached, hquiet⟩]
  rfl

theorem move_of_silent (hsilent : s.Silent cfg call) (hunsettled : ¬s.Settled cfg call) :
    s.move cfg call = s.timeOutMove cfg call.peers := by
  obtain ⟨hdue, hrunning, hsilence⟩ := hsilent
  have hstage : ¬(s.note cfg call).stage.terminal = true := by simp [hrunning]
  have hgoes : ¬((s.note cfg call).stage = .blockchain ∧ (s.note cfg call).reachedBest = true ∧
      cfg.quietPeriod call.peers < call.now - (s.note cfg call).bumpedAt) :=
    fun hsettled => hunsettled ⟨hdue, hsettled⟩
  have hsilence : cfg.timeout < call.now - (s.note cfg call).bumpedAt := hsilence
  rw [move_of_due hdue, dueMove, if_neg hstage, if_neg hgoes, if_pos hsilence]
  rfl

theorem timeOutMove_eq (cfg : Settings) (s : State) (peers : List Peer) :
    (∃ peer, s.timeOutMove cfg peers = .retry peer) ∨ s.timeOutMove cfg peers = .fail := by
  unfold timeOutMove
  split
  · next peer _ =>
      split
      · exact Or.inl ⟨peer, rfl⟩
      · exact Or.inr rfl
  · exact Or.inr rfl

/-- A tick that settles the blockchain stage is the one that leads out of it. -/
theorem settled_iff (hticks : call.op.ticks = true) :
    s.Settled cfg call ↔ s.stage = .blockchain ∧ (s.after cfg call).stage = .governance := by
  constructor
  · intro hsettled
    refine ⟨hsettled.2.1, ?_⟩
    rw [after_stage, move_of_settled hsettled, forward, hsettled.2.1]
    rfl
  · rintro ⟨hbefore, hafter⟩
    exact settled_of_tick hticks hbefore hafter

theorem attempt_lt_after_iff_silent :
    s.attempt < (s.after cfg call).attempt ↔ s.Silent cfg call ∧ ¬s.Settled cfg call := by
  rw [attempt_lt_after_iff]
  constructor
  · intro hmoves
    have hallows := s.allows_move cfg call
    have hunsettled : ¬s.Settled cfg call := by
      intro hsettled
      rw [move_of_settled hsettled, forward, hsettled.2.1] at hmoves
      rcases hmoves with ⟨peer, hmove⟩ | hmove <;> cases hmove
    rcases hmoves with ⟨peer, hmove⟩ | hmove
    · rw [hmove] at hallows
      exact ⟨hallows.1, hunsettled⟩
    · rw [hmove] at hallows
      exact ⟨hallows.1, hunsettled⟩
  · rintro ⟨hsilent, hunsettled⟩
    rw [move_of_silent hsilent hunsettled]
    exact s.timeOutMove_eq cfg call.peers

/-! What is no sign of life -/

theorem not_stirs_of_rest (hmove : s.move cfg call = .rest)
    (hunheard : Step.heard ⟨s, call⟩ = false) : ¬Step.Stirs cfg ⟨s, call⟩ := by
  rintro (hopens | hretries | hheard)
  · rcases opens_iff.mp hopens with ⟨notify, hrestart⟩ | ⟨next, asked, henter⟩
    · rw [hmove] at hrestart
      cases hrestart
    · rw [hmove] at henter
      cases henter
  · obtain ⟨peer, hretry⟩ := retries_iff.mp hretries
    rw [hmove] at hretry
    cases hretry
  · rw [hunheard] at hheard
    cases hheard

theorem disposition_of_other_stage {item count : Int} (hitem : item ≠ s.stage.id) :
    s.disposition (.statusCount item count) = .stale ∨
      s.disposition (.statusCount item count) = .ignored := by
  cases hterminal : s.stage.terminal with
  | true => exact Or.inr (disposition_of_terminal (by simp) hterminal)
  | false =>
      cases habout : Stage.ofId? item with
      | none => exact Or.inr (disposition_of_unknown rfl (Stage.ofId?_eq_none_iff.mp habout))
      | some about =>
          refine Or.inl (disposition_of_other hterminal habout ?_)
          rintro rfl
          exact hitem (Stage.eq_id_of_ofId? habout)

theorem not_stirs_of_unheeded {sender : Peer} {message : Message}
    (hop : call.op = .receive sender message)
    (hunheeded : s.disposition message = .recorded ∨ s.disposition message = .stale ∨
      s.disposition message = .ignored) : ¬Step.Stirs cfg ⟨s, call⟩ := by
  obtain ⟨now, peers, op⟩ := call
  subst hop
  apply not_stirs_of_rest
  · rcases hunheeded with hrecorded | hstale | hignored
    · simp [move, hrecorded]
    · simp [move, hstale]
    · simp [move, hignored]
  · rcases hunheeded with hrecorded | hstale | hignored
    · simp [Step.heard, hrecorded]
    · simp [Step.heard, hstale]
    · simp [Step.heard, hignored]

theorem Idle.not_stirs (hidle : s.Idle cfg call) : ¬Step.Stirs cfg ⟨s, call⟩ := by
  rcases hidle with ⟨sender, message, hop, hunheeded⟩ | ⟨sender, item, count, hop, hitem⟩ |
    ⟨hstage, htells, hrestarts⟩
  · exact not_stirs_of_unheeded hop hunheeded
  · exact not_stirs_of_unheeded hop (Or.inr (disposition_of_other_stage hitem))
  · obtain ⟨now, peers, op⟩ := call
    apply not_stirs_of_rest
    · cases op with
      | acceptHeader header => simp [move, blockchainMove, hstage]
      | headerTip header initialDownload => simp [move, blockchainMove, hstage]
      | blockTip tip initialDownload => simp [move, hrestarts, blockchainMove, hstage]
      | _ => cases htells
    · cases op with
      | acceptHeader | headerTip | blockTip => simp [Step.heard, hstage]
      | _ => cases htells

/-- A timeout that is counted is one more, and either ends the sync or has another peer
asked for the same stage. -/
theorem after_of_attempt_lt (hcounts : s.attempt < (s.after cfg call).attempt) :
    (s.after cfg call).attempt = s.attempt + 1 ∧
      ((s.after cfg call).stage = .failed ∨
        (s.after cfg call).stage = s.stage ∧
          ∃ peer ∈ call.peers, (s.outcome cfg call).requests = [Request.ofStage s.stage peer]) := by
  have hallows := s.allows_move cfg call
  rw [outcome_requests, after_attempt, after_stage]
  rcases attempt_lt_after_iff.mp hcounts with ⟨peer, hmove⟩ | hmove
  · rw [hmove] at hallows ⊢
    obtain ⟨-, -, huntried⟩ := hallows
    exact ⟨rfl, Or.inr ⟨rfl, peer, (untried?_eq_some huntried).1, rfl⟩⟩
  · rw [hmove]
    exact ⟨rfl, Or.inl rfl⟩

end State

open State in
/-- In every run, a tick in a stage that is under way counts a timeout if and only if it
is due, does not settle the blockchain stage, and comes more than the timeout after the
session last showed to be alive.  A timeout that is counted has another peer asked or
ends the sync; what the session does not wait for postpones none. -/
theorem timeout_of_silence (cfg : Settings) (began : Int) (calls : List Call) (call : Call)
    (hticks : call.op.ticks = true)
    (hunfailed : ((start began).run cfg calls).stage ≠ .failed)
    (hunfinished : ((start began).run cfg calls).stage ≠ .finished) :
    let s := (start began).run cfg calls
    let t := s.after cfg call
    (s.attempt < t.attempt ↔
      (cfg.tick ≤ call.now - lastTick cfg began calls ∧
        call.now - lastTick cfg began calls ≤ cfg.suspendRestart) ∧
      ¬(s.stage = .blockchain ∧ t.stage = .governance) ∧
      cfg.timeout < call.now - lastStir cfg began calls) ∧
    (s.attempt < t.attempt → t.attempt = s.attempt + 1 ∧
      (t.stage = .failed ∨ t.stage = s.stage ∧ ∃ peer ∈ call.peers,
        (s.outcome cfg call).requests = [Request.ofStage s.stage peer])) ∧
    ∀ other : Call, s.Idle cfg other →
      lastStir cfg began (calls ++ [other]) = lastStir cfg began calls := by
  intro s t
  have hrunning := (Stage.terminal_eq_false_iff _).mpr ⟨hunfailed, hunfinished⟩
  refine ⟨?_, after_of_attempt_lt, ?_⟩
  · rw [attempt_lt_after_iff_silent, settled_iff hticks, ← run_tickedAt,
      ← run_bumpedAt cfg began calls hunfinished]
    constructor
    · rintro ⟨⟨⟨-, hdue⟩, -, hsilence⟩, hgoes⟩
      exact ⟨hdue, hgoes, hsilence⟩
    · rintro ⟨hdue, hgoes, hsilence⟩
      exact ⟨⟨⟨hticks, hdue⟩, hrunning, hsilence⟩, hgoes⟩
  · intro other hidle
    rw [lastStir_concat, if_neg hidle.not_stirs]

/-- A header that arrives during governance does not postpone the timeout. -/
theorem timeout_of_silence_despite_header :
    let calls : List Call :=
      [⟨5, ["p"], .advance⟩, ⟨20, ["p"], .headerTip ⟨9, ⟨7⟩⟩ false⟩]
    let call : Call := ⟨36, ["p", "q"], .tick⟩
    let s := (State.start 0).run {} calls
    call.op.ticks = true ∧ s.stage ≠ .failed ∧ s.stage ≠ .finished ∧
      s.attempt < (s.after {} call).attempt := by
  intro calls call s
  have hunfailed : s.stage ≠ .failed := by decide
  have hunfinished : s.stage ≠ .finished := by decide
  obtain ⟨hcounts, -, -⟩ := timeout_of_silence {} 0 calls call rfl hunfailed hunfinished
  exact ⟨rfl, hunfailed, hunfinished, hcounts.mpr (by decide)⟩

end QuorumNode.Sync
