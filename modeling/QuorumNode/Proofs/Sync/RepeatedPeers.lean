/-
What a sync makes of a peer that is listed as connected more than once.  Whom it asks and
whose heights it keeps depends on the distinct peers alone.  Only how long it waits before
it leaves the blockchain stage depends on the length of the list, so that repeated entries
can pass for the many peers that make it wait less.
-/
import QuorumNode.Proofs.Sync.Exhaustion

namespace QuorumNode.Sync

/-! Lists without their later duplicates -/

theorem find?_eraseDups (p : Peer → Bool) (peers : List Peer) :
    peers.eraseDups.find? p = peers.find? p := by
  cases peers with
  | nil => rfl
  | cons peer rest =>
      have hrest := find?_eraseDups p (rest.filter fun other => !other == peer)
      rw [List.eraseDups_cons, List.find?_cons, List.find?_cons, hrest, List.find?_filter]
      cases hpeer : p peer with
      | true => rfl
      | false =>
          change rest.find? _ = rest.find? p
          -- The entries that were dropped are equal to `peer`, which is not looked for.
          congr 1
          funext other
          by_cases hsame : other = peer
          · simp [hsame, hpeer]
          · simp [hsame]
termination_by peers.length
decreasing_by exact Nat.lt_succ_of_le (List.length_filter_le _ _)

theorem length_eraseDups_le (peers : List Peer) : peers.eraseDups.length ≤ peers.length := by
  cases peers with
  | nil => exact Nat.le_refl 0
  | cons peer rest =>
      have hrest := length_eraseDups_le (rest.filter fun other => !other == peer)
      have hfilter := List.length_filter_le (fun other => !other == peer) rest
      rw [List.eraseDups_cons, List.length_cons, List.length_cons]
      omega
termination_by peers.length
decreasing_by exact Nat.lt_succ_of_le (List.length_filter_le _ _)

theorem Heights.keep_eraseDups (heights : Heights) (peers : List Peer) :
    heights.keep peers.eraseDups = heights.keep peers := by
  simp only [keep, List.mem_eraseDups]

/-! One step -/

/-- The same call with each connected peer listed once, where it is first. -/
def Call.distinct (call : Call) : Call := { call with peers := call.peers.eraseDups }

namespace Step

/-- Repeated entries decide the step.  A due tick finds a caught-up blockchain, the entries
are more than it takes to wait less while the peers are not, and the blockchain has been
quiet for one of the two quiet periods but not for the other. -/
structure Swayed (cfg : Settings) (x : Step) : Prop where
  due : x.before.Due cfg x.call
  stage : x.before.stage = .blockchain
  reached : x.before.notedReached cfg x.call = true
  few : x.call.peers.eraseDups.length ≤ cfg.fastAdvancePeers
  many : cfg.fastAdvancePeers < x.call.peers.length
  between : ¬(cfg.tick < x.call.now - x.before.bumpedAt ↔
    cfg.timeout < x.call.now - x.before.bumpedAt)

/-- What is seen of a step from outside: the answer, the stage and the attempts after it,
the events and the requests. -/
def seen (cfg : Settings) (x : Step) : Reply × Stage × Nat × List Event × List Request :=
  (x.reply cfg, (x.after cfg).stage, (x.after cfg).attempt, (x.outcome cfg).events,
    (x.outcome cfg).requests)

end Step

namespace State

/-- What is seen of a run, step by step. -/
def seen (cfg : Settings) (s : State) (calls : List Call) :
    List (Reply × Stage × Nat × List Event × List Request) :=
  (s.trace cfg calls).map (Step.seen cfg)

variable {cfg : Settings} {s : State} {call : Call}

theorem seen_cons (rest : List Call) :
    s.seen cfg (call :: rest) = Step.seen cfg ⟨s, call⟩ :: (s.after cfg call).seen cfg rest := rfl

theorem note_distinct (cfg : Settings) (s : State) (call : Call) :
    s.note cfg call.distinct = s.note cfg call := by
  have hheights : s.notedHeights call.distinct = s.notedHeights call := by
    obtain ⟨now, peers, op⟩ := call
    cases op with
    | tick | maintain => exact s.heights.keep_eraseDups peers
    | receive sender message => cases message <;> rfl
    | _ => rfl
  rw [note, hheights]
  rfl

theorem forward_eraseDups (s : State) (peers : List Peer) :
    s.forward peers.eraseDups = s.forward peers := by
  simp only [forward, head?_eraseDups]

theorem untried?_eraseDups (s : State) (peers : List Peer) :
    s.untried? peers.eraseDups = s.untried? peers :=
  find?_eraseDups _ peers

/-- Repeated entries have no say in whether the blockchain stage is settled, unless they
decide the step. -/
theorem settled_distinct_iff :
    (s.Settled cfg call.distinct ↔ s.Settled cfg call) ↔ ¬Step.Swayed cfg ⟨s, call⟩ := by
  constructor
  · rintro hsame ⟨hdue, hstage, hreached, hfew, hmany, hbetween⟩
    have hcaught (peers : List Peer) : s.Settled cfg { call with peers } ↔
        cfg.quietPeriod peers < call.now - s.bumpedAt :=
      ⟨fun hsettled => hsettled.2.2.2, fun hquiet => ⟨hdue, hstage, hreached, hquiet⟩⟩
    have hslow : s.Settled cfg call.distinct ↔ cfg.timeout < call.now - s.bumpedAt := by
      rw [Call.distinct, hcaught, Settings.quietPeriod_of_few hfew]
    have hfast : s.Settled cfg call ↔ cfg.tick < call.now - s.bumpedAt := by
      rw [← Settings.quietPeriod_of_many hmany, ← hcaught]
    exact hbetween (hfast.symm.trans (hsame.symm.trans hslow))
  · intro hfair
    change (s.Due cfg call ∧ s.stage = .blockchain ∧ s.notedReached cfg call = true ∧
      cfg.quietPeriod call.peers.eraseDups < call.now - s.bumpedAt) ↔ s.Settled cfg call
    refine and_congr_right fun hdue => and_congr_right fun hstage =>
      and_congr_right fun hreached => ?_
    rcases Nat.lt_or_ge cfg.fastAdvancePeers call.peers.eraseDups.length with hmany | hfew
    · have hlength := length_eraseDups_le call.peers
      rw [Settings.quietPeriod_of_many hmany,
        Settings.quietPeriod_of_many (Nat.lt_of_lt_of_le hmany hlength)]
    · rcases Nat.lt_or_ge cfg.fastAdvancePeers call.peers.length with hmany | hless
      · have hboth : cfg.tick < call.now - s.bumpedAt ↔ cfg.timeout < call.now - s.bumpedAt := by
          by_contra hbetween
          exact hfair ⟨hdue, hstage, hreached, hfew, hmany, hbetween⟩
        rw [Settings.quietPeriod_of_few hfew, Settings.quietPeriod_of_many hmany, hboth]
      · rw [Settings.quietPeriod_of_few hfew, Settings.quietPeriod_of_few hless]

theorem dueMove_eraseDups {now : Int} {peers : List Peer}
    (hsettles : s.stage = .blockchain → s.reachedBest = true →
      (cfg.quietPeriod peers.eraseDups < now - s.bumpedAt ↔
        cfg.quietPeriod peers < now - s.bumpedAt)) :
    s.dueMove cfg now peers.eraseDups = s.dueMove cfg now peers := by
  have hsame : (s.stage = .blockchain ∧ s.reachedBest = true ∧
        cfg.quietPeriod peers.eraseDups < now - s.bumpedAt) ↔
      (s.stage = .blockchain ∧ s.reachedBest = true ∧
        cfg.quietPeriod peers < now - s.bumpedAt) :=
    and_congr_right fun hstage => and_congr_right fun hreached => hsettles hstage hreached
  simp only [dueMove, timeOutMove, askMove, forward_eraseDups, untried?_eraseDups, hsame]

/-- A tick that is not due starts the sync again or does nothing. -/
theorem move_of_undue (hticks : call.op.ticks = true) (hundue : ¬s.Due cfg call) :
    s.move cfg call = if s.restarts cfg call then .restart true else .rest := by
  have hrestarts : s.restarts cfg call =
      (decide (cfg.suspendRestart < call.now - s.tickedAt) && s.stage != .failed) := by
    obtain ⟨now, peers, op⟩ := call
    cases op <;> first | rfl | cases hticks
  rw [move_of_ticks hticks, tickMove, hrestarts]
  by_cases hlate : cfg.suspendRestart < call.now - s.tickedAt
  · by_cases hfailed : s.stage = .failed <;> simp [hlate, hfailed]
  · have hearly : call.now - s.tickedAt < cfg.tick := by
      by_contra hlong
      exact hundue ⟨hticks, Int.not_lt.mp hlong, Int.not_lt.mp hlate⟩
    simp [hlate, hearly]

theorem move_distinct (hfair : ¬Step.Swayed cfg ⟨s, call⟩) :
    s.move cfg call.distinct = s.move cfg call := by
  by_cases hdue : s.Due cfg call
  · have hdistinct : s.Due cfg call.distinct := hdue
    have hsame := settled_distinct_iff.mpr hfair
    rw [move_of_due hdue, move_of_due hdistinct, note_distinct]
    refine dueMove_eraseDups fun hstage hreached => ⟨?_, ?_⟩
    · intro hquiet
      exact (hsame.mp ⟨hdistinct, hstage, hreached, hquiet⟩).2.2.2
    · intro hquiet
      exact (hsame.mpr ⟨hdue, hstage, hreached, hquiet⟩).2.2.2
  · have hdistinct : ¬s.Due cfg call.distinct := hdue
    obtain ⟨now, peers, op⟩ := call
    cases op with
    | tick | maintain =>
        rw [move_of_undue rfl hdue, move_of_undue rfl hdistinct]
        rfl
    | advance => exact s.forward_eraseDups peers
    | receive sender message =>
        simp only [move, Call.distinct, forward_eraseDups]
    | _ => rfl

theorem outcome_distinct (hfair : ¬Step.Swayed cfg ⟨s, call⟩) :
    s.outcome cfg call.distinct = s.outcome cfg call := by
  rw [outcome_eq_act, outcome_eq_act, note_distinct, move_distinct hfair]
  rfl

theorem after_distinct (hfair : ¬Step.Swayed cfg ⟨s, call⟩) :
    s.after cfg call.distinct = s.after cfg call :=
  congrArg Outcome.state (outcome_distinct hfair)

theorem seen_distinct (hfair : ¬Step.Swayed cfg ⟨s, call⟩) :
    Step.seen cfg ⟨s, call.distinct⟩ = Step.seen cfg ⟨s, call⟩ := by
  have houtcome : Step.outcome cfg ⟨s, call.distinct⟩ = Step.outcome cfg ⟨s, call⟩ :=
    outcome_distinct hfair
  have hafter : Step.after cfg ⟨s, call.distinct⟩ = Step.after cfg ⟨s, call⟩ :=
    after_distinct hfair
  rw [Step.seen, houtcome, hafter]
  rfl

/-- If repeated entries decide a step, then it enters governance with them or without them
but not both. -/
theorem after_stage_ne_of_swayed (hswayed : Step.Swayed cfg ⟨s, call⟩) :
    (s.after cfg call.distinct).stage ≠ (s.after cfg call).stage := by
  intro hstage
  have hticks : call.op.ticks = true := hswayed.due.1
  have hdistinct : s.Settled cfg call.distinct ↔
      s.stage = .blockchain ∧ (s.after cfg call.distinct).stage = .governance :=
    settled_iff hticks
  apply settled_distinct_iff.mp _ hswayed
  rw [hdistinct, hstage, settled_iff hticks]

end State

open State in
/-- Two runs that differ in nothing but entries that repeat a connected peer show the same
in every step if and only if repeated entries decide none of them. -/
theorem repeated_peers_of_each_run (cfg : Settings) (began : Int) (calls : List Call) :
    (start began).seen cfg (calls.map Call.distinct) = (start began).seen cfg calls ↔
      ∀ x ∈ (start began).trace cfg calls, ¬x.Swayed cfg := by
  generalize start began = s
  induction calls generalizing s with
  | nil => simp [seen]
  | cons call rest ih =>
      rw [List.map_cons, seen_cons, seen_cons, trace_cons, List.forall_mem_cons,
        List.cons.injEq]
      constructor
      · rintro ⟨hfirst, hrest⟩
        have hfair : ¬Step.Swayed cfg ⟨s, call⟩ := by
          intro hswayed
          have hstage : (s.after cfg call.distinct).stage = (s.after cfg call).stage :=
            congrArg (fun shown => shown.2.1) hfirst
          exact after_stage_ne_of_swayed hswayed hstage
        rw [after_distinct hfair] at hrest
        exact ⟨hfair, (ih _).mp hrest⟩
      · rintro ⟨hfair, hrest⟩
        refine ⟨seen_distinct hfair, ?_⟩
        rw [after_distinct hfair]
        exact (ih _).mpr hrest

/-- One peer that is listed four times passes for the four that it takes to wait less. -/
theorem governance_hastened_by_repetition :
    let peers : List Peer := ["a", "a", "a", "a"]
    let calls : List Call :=
      [⟨1000, peers, .headerTip ⟨5, ⟨7⟩⟩ false⟩, ⟨1000, peers, .blockTip ⟨5, ⟨7⟩⟩ false⟩,
        ⟨1007, peers, .tick⟩]
    ((State.start 1000).run {} calls).stage = .governance ∧
      ((State.start 1000).run {} (calls.map Call.distinct)).stage = .blockchain ∧
      (State.start 1000).seen {} (calls.map Call.distinct) ≠ (State.start 1000).seen {} calls := by
  intro peers calls
  exact ⟨by decide, by decide, by decide⟩

end QuorumNode.Sync
