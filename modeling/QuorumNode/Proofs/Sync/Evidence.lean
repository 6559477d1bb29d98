/-
What a sync has seen when it leaves the blockchain stage by itself.  The state
keeps a flag and two times; the history of the run says what they stand for.
-/
import Mathlib.Data.List.Induction
import QuorumNode.Proofs.Sync.CaughtUp
import QuorumNode.Proofs.Sync.Progression

namespace QuorumNode.Sync

/-- The operations that tell of the headers or the tip after the initial
download. -/
def Operation.announces : Operation → Bool
  | headerTip _ initialDownload | blockTip _ initialDownload => !initialDownload
  | _ => false

/-- The operations that count as progress of the blockchain stage in any case. -/
def Operation.progresses : Operation → Bool
  | bump | headerTip .. | blockTip .. => true
  | _ => false

namespace Step

/-- Whether the best header is first reached in a step. -/
def raises (cfg : Settings) (x : Step) : Bool :=
  !x.before.reachedBest && (x.after cfg).reachedBest

/-- Whether the tip is found stale in a step. -/
def drops (cfg : Settings) (x : Step) : Bool := x.before.drops cfg x.call

end Step

namespace State

/-- With `x` the best header was reached, and with none of the calls after it
was that taken back or done again. -/
structure Evidence (cfg : Settings) (s : State) (x : Call) (rest : List Call) : Prop where
  announced : x.op.announces = true
  raised : Step.raises cfg ⟨s, x⟩ = true
  caughtUp : (s.after cfg x).CaughtUp
  unbroken : ∀ y ∈ s.trace cfg (x :: rest), y.restarts cfg = false
  latest : ∀ y ∈ (s.after cfg x).trace cfg rest, y.raises cfg = false
  fresh : ∀ y ∈ (s.after cfg x).trace cfg rest, y.drops cfg = false

/-- When a tick last came that was not too early. -/
def lastTick (cfg : Settings) (began : Int) (calls : List Call) : Int :=
  calls.foldl
    (fun last call =>
      if call.op.ticks = true ∧
          (cfg.suspendRestart < call.now - last ∨ cfg.tick ≤ call.now - last)
      then call.now
      else last)
    began

variable {cfg : Settings} {s : State} {call : Call}

/-- The calls that show the tip to be at the best header are announcements in a stage
that is not terminal. -/
theorem confirms_eq_true_iff :
    s.confirms call = true ↔
      call.op.announces = true ∧ s.stage.terminal = false ∧
        atBest { s with tip := s.notedTip call, bestHeader := s.notedBest call } = true := by
  obtain ⟨now, peers, op⟩ := call
  cases op with
  | headerTip header initialDownload | blockTip tip initialDownload =>
      simp only [confirms, Operation.announces, Bool.and_eq_true, Bool.not_eq_true']
      constructor
      · rintro ⟨⟨hrunning, hdownload⟩, hbest⟩
        exact ⟨hdownload, hrunning, hbest⟩
      · rintro ⟨hdownload, hrunning, hbest⟩
        exact ⟨⟨hrunning, hdownload⟩, hbest⟩
  | _ => simp [confirms, Operation.announces]

/-- No call both looks for a stale tip and tells of a new one. -/
theorem drops_eq_false_of_confirms (hconfirms : s.confirms call = true) :
    s.drops cfg call = false := by
  obtain ⟨now, peers, op⟩ := call
  cases op <;> simp [confirms, drops] at hconfirms ⊢

theorem notedHeights_of_announces (s : State) (hannounces : call.op.announces = true) :
    s.notedHeights call = s.heights := by
  obtain ⟨now, peers, op⟩ := call
  cases op <;> first | rfl | cases hannounces

theorem caughtUp_after_of_confirms (hconfirms : s.confirms call = true)
    (hrestarts : s.restarts cfg call = false) : (s.after cfg call).CaughtUp := by
  obtain ⟨-, hheights, -⟩ := after_of_not_restarts hrestarts
  have htip := s.after_tip cfg call
  have hbest := s.after_bestHeader cfg call
  obtain ⟨hannounces, -, hat⟩ := confirms_eq_true_iff.mp hconfirms
  have hkept := s.notedHeights_of_announces hannounces
  obtain ⟨tip, best, hnotedTip, hnotedBest, hhash, hwithin⟩ := atBest_eq_true_iff.mp hat
  refine ⟨tip, best, htip.trans hnotedTip, hbest.trans hnotedBest, hhash, ?_⟩
  rw [hheights, hkept]
  exact hwithin

theorem Evidence.concat {x : Call} {rest : List Call} (hevidence : s.Evidence cfg x rest)
    (hreached : ((s.after cfg x).run cfg rest).reachedBest = true)
    (hrestarts : ((s.after cfg x).run cfg rest).restarts cfg call = false)
    (hdrops : ((s.after cfg x).run cfg rest).drops cfg call = false) :
    s.Evidence cfg x (rest ++ [call]) := by
  refine ⟨hevidence.announced, hevidence.raised, hevidence.caughtUp, ?_, ?_, ?_⟩
  · rw [← List.cons_append]
    exact forall_mem_trace_concat.mpr ⟨hevidence.unbroken, hrestarts⟩
  · refine forall_mem_trace_concat.mpr ⟨hevidence.latest, ?_⟩
    simp [Step.raises, hreached]
  · exact forall_mem_trace_concat.mpr ⟨hevidence.fresh, hdrops⟩

theorem evidence_of_confirms (hbefore : s.reachedBest = false)
    (hconfirms : s.confirms call = true) (hrestarts : s.restarts cfg call = false) :
    s.Evidence cfg call [] := by
  have hreached : (s.after cfg call).reachedBest = true := by
    simp [after_reachedBest, hrestarts, notedReached, hconfirms]
  obtain ⟨hannounces, -, -⟩ := confirms_eq_true_iff.mp hconfirms
  refine ⟨hannounces, ?_, caughtUp_after_of_confirms hconfirms hrestarts, ?_, ?_, ?_⟩
  · simp [Step.raises, Step.after, hbefore, hreached]
  · intro y hy
    rw [trace_cons, trace_nil, List.mem_singleton] at hy
    rw [hy]
    exact hrestarts
  · simp
  · simp

/-- Whoever has reached the best header can name the call that showed it. -/
theorem evidence_of_reachedBest (cfg : Settings) (began : Int) (calls : List Call)
    (hreached : ((start began).run cfg calls).reachedBest = true) :
    ∃ earlier x rest, calls = earlier ++ x :: rest ∧
      ((start began).run cfg earlier).Evidence cfg x rest := by
  induction calls using List.reverseRecOn with
  | nil => cases hreached
  | append_singleton calls call ih =>
      rw [run_concat, after_reachedBest] at hreached
      simp only [Bool.and_eq_true, Bool.not_eq_true'] at hreached
      obtain ⟨hrestarts, hnoted⟩ := hreached
      cases hbefore : ((start began).run cfg calls).reachedBest with
      | false =>
          have hconfirms : ((start began).run cfg calls).confirms call = true := by
            simpa [notedReached, hbefore] using hnoted
          exact ⟨calls, call, [], rfl, evidence_of_confirms hbefore hconfirms hrestarts⟩
      | true =>
          have hdrops : ((start began).run cfg calls).drops cfg call = false := by
            cases hconfirms : ((start began).run cfg calls).confirms call with
            | true => exact drops_eq_false_of_confirms hconfirms
            | false => simpa [notedReached, hbefore, hconfirms] using hnoted
          obtain ⟨earlier, x, rest, hcalls, hevidence⟩ := ih hbefore
          refine ⟨earlier, x, rest ++ [call], by rw [hcalls, List.append_assoc]; rfl, ?_⟩
          rw [hcalls, run_append, run_cons] at hbefore hrestarts hdrops
          exact hevidence.concat hbefore hrestarts hdrops

/-! The times on record -/

theorem run_tickedAt (cfg : Settings) (began : Int) (calls : List Call) :
    ((start began).run cfg calls).tickedAt = lastTick cfg began calls := by
  induction calls using List.reverseRecOn with
  | nil => rfl
  | append_singleton calls call ih =>
      rw [run_concat, after_tickedAt, notedTick, ih, lastTick, lastTick, List.foldl_append]
      rfl

theorem after_bumpedAt_cases (cfg : Settings) (s : State) (call : Call) :
    (s.after cfg call).bumpedAt = s.bumpedAt ∨ (s.after cfg call).bumpedAt = call.now := by
  rw [after_bumpedAt]
  cases s.move cfg call with
  | rest | ask | fail => exact Or.inl rfl
  | bump | restart | enter | retry => exact Or.inr rfl

/-- Nothing but a restart leads to the blockchain stage. -/
theorem stage_eq_blockchain_of_after (hrestarts : s.restarts cfg call = false)
    (hstage : (s.after cfg call).stage = .blockchain) : s.stage = .blockchain := by
  rcases s.after_stage_cases cfg call with hsame | ⟨hnext, -⟩ | ⟨hfailed, -, -⟩ | ⟨-, htrue⟩
  · rw [← hsame, hstage]
  · rw [hstage] at hnext
    cases hbefore : s.stage <;> simp [hbefore, Stage.next?] at hnext
  · rw [hstage] at hfailed
    cases hfailed
  · rw [hrestarts] at htrue
    cases htrue

theorem after_bumpedAt_of_restarts (hrestarts : s.restarts cfg call = true) :
    (s.after cfg call).bumpedAt = call.now := by
  obtain ⟨notify, hafter⟩ := after_of_restarts hrestarts
  rw [hafter]
  rfl

theorem after_bumpedAt_of_progresses (hprogress : call.op.progresses = true)
    (hrestarts : s.restarts cfg call = false) (hstage : s.stage = .blockchain) :
    (s.after cfg call).bumpedAt = call.now := by
  have hmove : s.move cfg call = .bump := by
    obtain ⟨now, peers, op⟩ := call
    cases op with
    | bump => simp [move, hstage]
    | headerTip header initialDownload => simp [move, blockchainMove, hstage]
    | blockTip tip initialDownload => simp [move, hrestarts, blockchainMove, hstage]
    | _ => cases hprogress
  rw [after_bumpedAt, hmove]
  rfl

/-- In the blockchain stage, all progress since the last restart is on record. -/
theorem progress_le_bumpedAt (cfg : Settings) (began : Int) (calls : List Call)
    (hclock : calls.Pairwise fun a b => a.now ≤ b.now)
    (hstage : ((start began).run cfg calls).stage = .blockchain)
    {earlier rest : List Call} {x : Call} (hcalls : calls = earlier ++ x :: rest)
    (hunbroken : ∀ y ∈ ((start began).run cfg (earlier ++ [x])).trace cfg rest,
      y.restarts cfg = false)
    (hprogress : x.op.progresses = true ∨
      ((start began).run cfg earlier).restarts cfg x = true) :
    x.now ≤ ((start began).run cfg calls).bumpedAt := by
  induction rest using List.reverseRecOn generalizing calls with
  | nil =>
      rw [hcalls, run_concat] at hstage ⊢
      apply Int.le_of_eq
      cases hrestarts : ((start began).run cfg earlier).restarts cfg x with
      | true => exact (after_bumpedAt_of_restarts hrestarts).symm
      | false =>
          have hop : x.op.progresses = true := by simpa [hrestarts] using hprogress
          exact (after_bumpedAt_of_progresses hop hrestarts
            (stage_eq_blockchain_of_after hrestarts hstage)).symm
  | append_singleton rest last ih =>
      have hsplit : calls = (earlier ++ x :: rest) ++ [last] := by simp [hcalls]
      subst hsplit
      obtain ⟨hbefore, hlast⟩ := forall_mem_trace_concat.mp hunbroken
      have hrestarts :
          ((start began).run cfg (earlier ++ x :: rest)).restarts cfg last = false := by
        rw [← run_append, List.append_assoc] at hlast
        exact hlast
      rw [run_concat] at hstage ⊢
      obtain ⟨hearlier, -, hlater⟩ := List.pairwise_append.mp hclock
      have hle := ih _ hearlier (stage_eq_blockchain_of_after hrestarts hstage) rfl hbefore
      rcases after_bumpedAt_cases cfg ((start began).run cfg (earlier ++ x :: rest)) last
        with hsame | hnow
      · rwa [hsame]
      · rw [hnow]
        exact hlater x (by simp) last (List.mem_singleton_self last)

/-- What a tick has found that leads out of the blockchain stage. -/
theorem settled_of_tick (hticks : call.op.ticks = true) (hbefore : s.stage = .blockchain)
    (hafter : (s.after cfg call).stage = .governance) : s.Settled cfg call := by
  have hallows := s.allows_move cfg call
  rw [after_stage, hbefore] at hafter
  cases hmove : s.move cfg call with
  | rest | bump | restart | ask | retry | fail =>
      rw [hmove] at hafter
      cases hafter
  | enter next asked =>
      rw [hmove] at hallows
      obtain ⟨-, -, hadvance | ⟨sender, count, hserved⟩ | hsettled⟩ := hallows
      · rw [hadvance] at hticks
        cases hticks
      · rw [hserved] at hticks
        cases hticks
      · exact hsettled

/-- A tick alone shows nothing about the chain. -/
theorem confirms_eq_false_of_ticks (hticks : call.op.ticks = true) : s.confirms call = false := by
  obtain ⟨now, peers, op⟩ := call
  cases op <;> first | rfl | cases hticks

theorem reachedBest_of_notedReached (hticks : call.op.ticks = true)
    (hnoted : s.notedReached cfg call = true) : s.reachedBest = true := by
  simp only [notedReached, confirms_eq_false_of_ticks hticks, Bool.or_false,
    Bool.and_eq_true] at hnoted
  exact hnoted.1

theorem restarts_eq_false_of_due (hdue : s.Due cfg call) : s.restarts cfg call = false := by
  obtain ⟨hticks, -, hintime⟩ := hdue
  obtain ⟨now, peers, op⟩ := call
  cases op with
  | tick | maintain => simp [restarts, Int.not_lt.mpr hintime]
  | _ => cases hticks

end State

open State in
/-- In every run, a tick that leads from the blockchain stage to governance rests
on evidence: the best header was reached after the initial download, by all that was
told until then, and nothing has put that in doubt since; all progress since the last restart lies a quiet
period back; and the last tick is neither too close nor too far. -/
theorem evidence_of_settling (cfg : Settings) (began : Int) (calls : List Call) (call : Call)
    (hclock : (calls ++ [call]).Pairwise fun a b => a.now ≤ b.now)
    (hticks : call.op.ticks = true)
    (hbefore : ((start began).run cfg calls).stage = .blockchain)
    (hafter : ((start began).run cfg (calls ++ [call])).stage = .governance) :
    (∃ earlier x rest, calls = earlier ++ x :: rest ∧
      ((start began).run cfg earlier).Evidence cfg x (rest ++ [call]) ∧
      ShowsBest cfg began (earlier ++ [x])) ∧
    (∀ earlier x rest, calls = earlier ++ x :: rest →
      (∀ y ∈ ((start began).run cfg (earlier ++ [x])).trace cfg rest, y.restarts cfg = false) →
      (x.op.progresses = true ∨ ((start began).run cfg earlier).restarts cfg x = true) →
      x.now <
        call.now - if cfg.fastAdvancePeers < call.peers.length then cfg.tick else cfg.timeout) ∧
    cfg.tick ≤ call.now - lastTick cfg began calls ∧
    call.now - lastTick cfg began calls ≤ cfg.suspendRestart := by
  rw [run_concat] at hafter
  obtain ⟨hdue, -, hnoted, hquiet⟩ := settled_of_tick hticks hbefore hafter
  refine ⟨?_, ?_, ?_⟩
  · have hrestarts := restarts_eq_false_of_due hdue
    simp only [notedReached, confirms_eq_false_of_ticks hticks, Bool.or_false,
      Bool.and_eq_true, Bool.not_eq_true'] at hnoted
    obtain ⟨hreached, hdrops⟩ := hnoted
    obtain ⟨earlier, x, rest, hcalls, hevidence⟩ :=
      evidence_of_reachedBest cfg began calls hreached
    rw [hcalls, run_append, run_cons] at hreached hrestarts hdrops
    refine ⟨earlier, x, rest, hcalls, hevidence.concat hreached hrestarts hdrops, ?_⟩
    rw [← run_caughtUp_iff, run_concat]
    exact hevidence.caughtUp
  · intro earlier x rest hcalls hunbroken hprogress
    have hle := progress_le_bumpedAt cfg began calls (List.pairwise_append.mp hclock).1 hbefore
      hcalls hunbroken hprogress
    rw [Settings.quietPeriod] at hquiet
    omega
  · rw [← run_tickedAt]
    exact hdue.2

/-- A header and its block are announced, and half a minute later a tick settles
the blockchain stage. -/
theorem evidence_of_settling_announced :
    let calls : List Call :=
      [⟨10, [], .headerTip ⟨5, ⟨7⟩⟩ false⟩, ⟨12, [], .blockTip ⟨5, ⟨7⟩⟩ false⟩]
    let call : Call := ⟨43, [], .tick⟩
    ((State.start 0).run {} (calls ++ [call])).stage = .governance ∧
      ∃ earlier x rest, calls = earlier ++ x :: rest ∧
        ((State.start 0).run {} earlier).Evidence {} x (rest ++ [call]) ∧
        ShowsBest {} 0 (earlier ++ [x]) := by
  intro calls call
  refine ⟨by decide, ?_⟩
  exact (evidence_of_settling {} 0 calls call (by decide) (by decide) (by decide) (by decide)).1

end QuorumNode.Sync
