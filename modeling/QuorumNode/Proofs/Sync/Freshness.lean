/-
When a tip goes stale.  The state keeps one time for that, which a restart and a move of the
tip set and nothing else.  A header can raise the best header again without touching that
time, so it matters that maintenance looks at the tip before it ticks.
-/
import Mathlib.Data.List.Induction
import QuorumNode.Proofs.Sync.BestHeader

namespace QuorumNode.Sync

/-- The operations that move the tip. -/
def Operation.movesTip : Operation → Bool
  | blockTip .. => true
  | _ => false

namespace Step

/-- A step from which the tip counts as fresh: the sync starts again, or the tip moves,
whatever the stage and whether or not the initial download is still going on. -/
def refreshes (cfg : Settings) (x : Step) : Bool := x.restarts cfg || x.call.op.movesTip

end Step

namespace State

/-- The time of the last step that refreshes the tip, or else of the beginning. -/
def lastRefresh (cfg : Settings) (began : Int) (calls : List Call) : Int :=
  ((((start began).trace cfg calls).filter (Step.refreshes cfg)).map fun x =>
    x.call.now).getLastD began

variable {cfg : Settings} {began : Int} {s : State} {calls : List Call} {call : Call}

theorem lastRefresh_concat :
    lastRefresh cfg began (calls ++ [call]) =
      if Step.refreshes cfg ⟨(start began).run cfg calls, call⟩ then call.now
      else lastRefresh cfg began calls := by
  rw [lastRefresh, trace_concat, List.filter_append]
  split
  · next hrefreshes =>
      rw [List.filter_cons_of_pos hrefreshes, List.filter_nil, List.map_append, List.map_cons,
        List.map_nil, List.getLastD_concat]
  · next hrefreshes =>
      rw [List.filter_cons_of_neg hrefreshes, List.filter_nil, List.append_nil]
      rfl

/-! The time on record -/

theorem after_tipMovedAt (cfg : Settings) (s : State) (call : Call) :
    (s.after cfg call).tipMovedAt =
      if Step.refreshes cfg ⟨s, call⟩ then call.now else s.tipMovedAt := by
  cases hrestarts : s.restarts cfg call with
  | true =>
      obtain ⟨notify, hafter⟩ := after_of_restarts hrestarts
      have hrefreshes : Step.refreshes cfg ⟨s, call⟩ = true := by
        simp [Step.refreshes, Step.restarts, hrestarts]
      rw [if_pos hrefreshes, hafter]
      rfl
  | false =>
      have hrefreshes : Step.refreshes cfg ⟨s, call⟩ = call.op.movesTip := by
        simp [Step.refreshes, Step.restarts, hrestarts]
      rw [(after_of_not_restarts hrestarts).2.2, hrefreshes]
      obtain ⟨now, peers, op⟩ := call
      cases op <;> rfl

theorem run_tipMovedAt (cfg : Settings) (began : Int) (calls : List Call) :
    ((start began).run cfg calls).tipMovedAt = lastRefresh cfg began calls := by
  induction calls using List.reverseRecOn with
  | nil => rfl
  | append_singleton calls call ih => rw [run_concat, after_tipMovedAt, lastRefresh_concat, ih]

theorem tipIsStale_eq_true_iff {now : Int} :
    s.tipIsStale cfg now = true ↔
      s.reachedBest = true ∧ cfg.tipReset < now - s.tipMovedAt := by
  rw [tipIsStale, Bool.and_eq_true, decide_eq_true_eq]

/-- What neither restarts nor moves the tip does not refresh it. -/
theorem refreshes_eq_false (hrestarts : s.restarts cfg call = false)
    (hstays : ∀ tip initialDownload, call.op ≠ .blockTip tip initialDownload) :
    Step.refreshes cfg ⟨s, call⟩ = false := by
  have hop : call.op.movesTip = false := by
    obtain ⟨now, peers, op⟩ := call
    cases op with
    | blockTip tip initialDownload => exact absurd rfl (hstays tip initialDownload)
    | _ => rfl
  simp [Step.refreshes, Step.restarts, hrestarts, hop]

/-! What a stale tip leads to -/

/-- A call that looks for a stale tip tells of no new one. -/
theorem confirms_eq_false_of_drops (hdrops : s.drops cfg call = true) :
    s.confirms call = false := by
  cases hconfirms : s.confirms call with
  | false => rfl
  | true =>
      rw [drops_eq_false_of_confirms hconfirms] at hdrops
      cases hdrops

theorem after_reachedBest_of_drops (hdrops : s.drops cfg call = true) :
    (s.after cfg call).reachedBest = false := by
  rw [after_reachedBest, notedReached, hdrops, confirms_eq_false_of_drops hdrops]
  simp

/-- Only an announcement raises the best header. -/
theorem announces_of_raises (hraises : Step.raises cfg ⟨s, call⟩ = true) :
    call.op.announces = true := by
  obtain ⟨hbefore, hafter⟩ : s.reachedBest = false ∧ (s.after cfg call).reachedBest = true := by
    simpa [Step.raises, Step.after] using hraises
  have hconfirms : s.confirms call = true := by
    simp only [after_reachedBest, notedReached, hbefore, Bool.false_and, Bool.false_or,
      Bool.and_eq_true] at hafter
    exact hafter.2
  exact (confirms_eq_true_iff.mp hconfirms).1

/-- A best header that comes to be reached in a run is raised by one of its steps. -/
theorem exists_raises_of_run (hbefore : s.reachedBest = false)
    (hafter : (s.run cfg calls).reachedBest = true) :
    ∃ x ∈ s.trace cfg calls, x.raises cfg = true ∧ x.call.op.announces = true := by
  induction calls generalizing s with
  | nil =>
      rw [run_nil, hbefore] at hafter
      cases hafter
  | cons call rest ih =>
      cases hnext : (s.after cfg call).reachedBest with
      | true =>
          have hraises : Step.raises cfg ⟨s, call⟩ = true := by
            simp [Step.raises, Step.after, hbefore, hnext]
          exact ⟨_, List.mem_cons_self, hraises, announces_of_raises hraises⟩
      | false =>
          obtain ⟨x, hx, hraised⟩ := ih hnext hafter
          exact ⟨x, List.mem_cons_of_mem _ hx, hraised⟩

/-- A tick settles the blockchain stage only if the best header was reached before it. -/
theorem after_stage_of_unreached (hticks : call.op.ticks = true) (hstage : s.stage = .blockchain)
    (hunreached : s.reachedBest = false) : (s.after cfg call).stage ≠ .governance := by
  intro hgovernance
  obtain ⟨-, -, hnoted, -⟩ := settled_of_tick hticks hstage hgovernance
  rw [reachedBest_of_notedReached hticks hnoted] at hunreached
  cases hunreached

theorem checkTip_stage (cfg : Settings) (s : State) (now : Int) :
    (s.checkTip cfg now).stage = s.stage := by
  unfold checkTip
  split <;> rfl

/-- A look at a tip that has been still for too long leaves the best header unreached. -/
theorem checkTip_reachedBest {now : Int} (hstill : cfg.tipReset < now - s.tipMovedAt) :
    (s.checkTip cfg now).reachedBest = false := by
  unfold checkTip
  split
  · rfl
  · next hstale =>
      rw [tipIsStale_eq_true_iff, not_and] at hstale
      exact eq_false_of_ne_true fun hreached => hstale hreached hstill

/-- The look at the tip takes the best header back before a tick could settle the stage,
whatever time the tick reads. -/
theorem after_stage_of_checkTip_tick {now later : Int} {first peers : List Peer}
    (hstage : s.stage = .blockchain) (hstill : cfg.tipReset < now - s.tipMovedAt) :
    ((s.after cfg ⟨now, first, .checkTip⟩).after cfg ⟨later, peers, .tick⟩).stage ≠
      .governance := by
  have hkept : (s.after cfg ⟨now, first, .checkTip⟩).stage = .blockchain :=
    (s.checkTip_stage cfg now).trans hstage
  exact after_stage_of_unreached rfl hkept (checkTip_reachedBest hstill)

/-- Maintenance is a look at the tip and a tick at one time. -/
theorem after_maintain (cfg : Settings) (s : State) (now : Int) (peers : List Peer) :
    s.after cfg ⟨now, peers, .maintain⟩ =
      (s.after cfg ⟨now, peers, .checkTip⟩).after cfg ⟨now, peers, .tick⟩ := rfl

end State

open State in
/-- In every run, the tip is found stale if and only if the best header is reached and the
last restart or move of the tip lies too far back; no other call sets the time on record.
Once found stale, the tip is not found stale again before an announcement has raised the
best header anew.  And with a tip that has been still for too long, maintenance does not
take the blockchain stage to governance, not even if its tick reads the clock again. -/
theorem tip_freshness_of_each_run (cfg : Settings) (began : Int) (calls : List Call) :
    let s := (start began).run cfg calls
    let fresh := lastRefresh cfg began calls
    (∀ now, s.reply cfg now .checkTip = .flag true ↔
      s.reachedBest = true ∧ cfg.tipReset < now - fresh) ∧
    (∀ call, s.drops cfg call = true ↔
      (call.op = .checkTip ∨ call.op = .maintain) ∧
        s.reachedBest = true ∧ cfg.tipReset < call.now - fresh) ∧
    (∀ call, s.restarts cfg call = false →
      (∀ tip initialDownload, call.op ≠ .blockTip tip initialDownload) →
        lastRefresh cfg began (calls ++ [call]) = fresh ∧
          (s.after cfg call).tipMovedAt = s.tipMovedAt) ∧
    (∀ fired, s.drops cfg fired = true →
      (s.after cfg fired).reachedBest = false ∧
      ∀ between again, ((s.after cfg fired).run cfg between).drops cfg again = true →
        ∃ x ∈ (s.after cfg fired).trace cfg between,
          x.raises cfg = true ∧ x.call.op.announces = true) ∧
    ∀ now peers, s.stage = .blockchain → cfg.tipReset < now - fresh →
      (s.after cfg ⟨now, peers, .maintain⟩).stage ≠ .governance ∧
        ∀ first later,
          ((s.after cfg ⟨now, first, .checkTip⟩).after cfg ⟨later, peers, .tick⟩).stage ≠
            .governance := by
  intro s fresh
  have hfresh : s.tipMovedAt = fresh := run_tipMovedAt cfg began calls
  rw [← hfresh]
  refine ⟨?_, ?_, ?_, ?_, ?_⟩
  · intro now
    rw [← tipIsStale_eq_true_iff, reply, Reply.flag.injEq]
  · intro call
    rw [drops_eq_true_iff, tipIsStale_eq_true_iff]
  · intro call hrestarts hstays
    have hkept : Step.refreshes cfg ⟨s, call⟩ = false := refreshes_eq_false hrestarts hstays
    have hbefore : (s.after cfg call).tipMovedAt = s.tipMovedAt := by
      rw [after_tipMovedAt, hkept, if_neg Bool.false_ne_true]
    refine ⟨?_, hbefore⟩
    rw [← run_tipMovedAt, run_concat]
    exact hbefore
  · intro fired hfired
    have hlost := after_reachedBest_of_drops hfired
    refine ⟨hlost, ?_⟩
    intro between again hagain
    obtain ⟨-, hstale⟩ := drops_eq_true_iff.mp hagain
    exact exists_raises_of_run hlost (tipIsStale_eq_true_iff.mp hstale).1
  · intro now peers hstage hstill
    refine ⟨?_, fun first later => after_stage_of_checkTip_tick hstage hstill⟩
    rw [after_maintain]
    exact after_stage_of_checkTip_tick hstage hstill

/-- The tip is found stale, then a header raises the best header again.  A tick alone would
now go on to governance, maintenance does not. -/
theorem tip_freshness_of_each_run_header_again :
    let calls : List Call :=
      [⟨0, [], .headerTip ⟨5, ⟨7⟩⟩ false⟩, ⟨0, [], .blockTip ⟨5, ⟨7⟩⟩ false⟩,
        ⟨700, [], .checkTip⟩, ⟨701, [], .headerTip ⟨5, ⟨7⟩⟩ false⟩]
    let s := (State.start 0).run {} calls
    s.stage = .blockchain ∧ s.reachedBest = true ∧ State.lastRefresh {} 0 calls = 0 ∧
      (s.after {} ⟨740, [], .tick⟩).stage = .governance ∧
      (s.after {} ⟨740, [], .maintain⟩).stage ≠ .governance ∧
      ((s.after {} ⟨740, [], .checkTip⟩).after {} ⟨742, [], .tick⟩).stage ≠ .governance := by
  intro calls s
  have hstage : s.stage = .blockchain := by decide
  have hfresh : State.lastRefresh {} 0 calls = 0 := by decide
  obtain ⟨-, -, -, -, hstays⟩ := tip_freshness_of_each_run {} 0 calls
  have hstill : ({} : Settings).tipReset < 740 - State.lastRefresh {} 0 calls := by
    rw [hfresh]
    decide
  obtain ⟨hmaintained, hticked⟩ := hstays 740 [] hstage hstill
  exact ⟨hstage, by decide, hfresh, by decide, hmaintained, hticked [] 742⟩

end QuorumNode.Sync
