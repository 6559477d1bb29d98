/-
A sync reads its clock only to compare two readings.  A second sync whose clock is ahead
by a constant does the same at every step, and the times it has on record are ahead by
that constant.  The one time that may stand for none is that of a failure.
-/
import QuorumNode.Proofs.Sync.Session

namespace QuorumNode.Sync

/-- The same call on a clock that is ahead by `d`. -/
def Call.later (d : Int) (call : Call) : Call := { call with now := call.now + d }

namespace State

/-- The same state on a clock that is ahead by `d`.  The time of failure is a time only
as long as the sync is failed. -/
def later (d : Int) (s : State) : State :=
  { s with
    startedAt := s.startedAt + d
    bumpedAt := s.bumpedAt + d
    failedAt := if s.stage = .failed then s.failedAt + d else s.failedAt
    tipMovedAt := s.tipMovedAt + d
    tickedAt := s.tickedAt + d }

end State

/-- The same outcome on a clock that is ahead by `d`. -/
def Outcome.later (d : Int) (outcome : Outcome) : Outcome :=
  { outcome with state := outcome.state.later d }

namespace State

variable (cfg : Settings) (d : Int) (s : State) (call : Call)

/-! What a call notes and decides does not depend on where the clock begins -/

theorem tipIsStale_later (now : Int) :
    (s.later d).tipIsStale cfg (now + d) = s.tipIsStale cfg now := by
  simp only [tipIsStale, later, Int.add_sub_add_right]

theorem restarts_later : (s.later d).restarts cfg (call.later d) = s.restarts cfg call := by
  obtain ⟨now, peers, op⟩ := call
  cases op <;> simp only [restarts, later, Call.later, Int.add_sub_add_right]

theorem notedReached_later :
    (s.later d).notedReached cfg (call.later d) = s.notedReached cfg call := by
  obtain ⟨now, peers, op⟩ := call
  cases op with
  | maintain | checkTip =>
      simp only [notedReached, drops, Call.later, tipIsStale_later]
      rfl
  | _ => rfl

theorem notedTipMove_later :
    (s.later d).notedTipMove (call.later d) = s.notedTipMove call + d := by
  obtain ⟨now, peers, op⟩ := call
  cases op <;> rfl

theorem notedTick_later :
    (s.later d).notedTick cfg (call.later d) = s.notedTick cfg call + d := by
  simp only [notedTick, later, Call.later, Int.add_sub_add_right]
  split <;> rfl

theorem note_later : (s.later d).note cfg (call.later d) = (s.note cfg call).later d := by
  simp only [note, notedReached_later, notedTipMove_later, notedTick_later]
  rfl

theorem dueMove_later (now : Int) (peers : List Peer) :
    (s.later d).dueMove cfg (now + d) peers = s.dueMove cfg now peers := by
  simp only [dueMove, later, Int.add_sub_add_right]
  rfl

theorem tickMove_later : (s.later d).tickMove cfg (call.later d) = s.tickMove cfg call := by
  have hgap : (call.later d).now - (s.later d).tickedAt = call.now - s.tickedAt :=
    Int.add_sub_add_right ..
  have hdue := dueMove_later cfg d (s.note cfg call) call.now call.peers
  simp only [tickMove, hgap, note_later]
  rw [← hdue]
  rfl

theorem move_later : (s.later d).move cfg (call.later d) = s.move cfg call := by
  have hrestarts := restarts_later cfg d s call
  have hticks := tickMove_later cfg d s call
  obtain ⟨now, peers, op⟩ := call
  cases op with
  | tick | maintain => exact hticks
  | blockTip tip initialDownload =>
      change (if _ then Move.restart true else s.blockchainMove) = _
      rw [hrestarts]
      rfl
  | _ => rfl

/-! Nor does what it does -/

/-- Failure is neither left nor entered on the way from a stage to the next one. -/
theorem ne_failed_of_enter {cfg : Settings} {s : State} {call : Call} {next : Stage}
    {asked : Option Peer} (hmove : s.move cfg call = .enter next asked) :
    s.stage ≠ .failed ∧ next ≠ .failed := by
  have hallows := s.allows_move cfg call
  rw [hmove] at hallows
  obtain ⟨hnext, -, -⟩ := hallows
  refine ⟨?_, Stage.ne_failed_of_next? hnext⟩
  intro hfailed
  rw [hfailed] at hnext
  cases hnext

theorem act_later (now : Int) (move : Move)
    (hentered : ∀ next asked, move = .enter next asked → s.stage ≠ .failed ∧ next ≠ .failed) :
    (s.later d).act (now + d) move = (s.act now move).later d := by
  cases move with
  | enter next asked =>
      -- The time of failure stays as it is here, so both stages must agree that it is none.
      obtain ⟨hbefore, hafter⟩ := hentered next asked rfl
      simp [act, entered, Outcome.later, later, hbefore, hafter]
  | _ => rfl

theorem outcome_later :
    (s.later d).outcome cfg (call.later d) = (s.outcome cfg call).later d := by
  rw [outcome_eq_act, outcome_eq_act, note_later, move_later]
  exact act_later d _ call.now _ fun _ _ => ne_failed_of_enter

theorem after_later : (s.later d).after cfg (call.later d) = (s.after cfg call).later d := by
  rw [after, outcome_later]
  rfl

theorem run_later (calls : List Call) :
    (s.later d).run cfg (calls.map (Call.later d)) = (s.run cfg calls).later d :=
  run_map (after_later cfg d) s calls

theorem reply_later :
    (s.later d).reply cfg (call.later d).now call.op = s.reply cfg call.now call.op := by
  obtain ⟨now, peers, op⟩ := call
  cases op with
  | checkTip => exact congrArg Reply.flag (tipIsStale_later cfg d s now)
  | _ => rfl

/-- No time of failure is on record unless the sync has failed. -/
theorem after_failedAt_eq_zero (cfg : Settings) (s : State) (call : Call)
    (hbefore : s.stage ≠ .failed → s.failedAt = 0)
    (hafter : (s.after cfg call).stage ≠ .failed) : (s.after cfg call).failedAt = 0 := by
  rw [after_stage] at hafter
  rw [after, outcome_eq_act]
  cases hmove : s.move cfg call with
  | restart notify => rfl
  | enter next asked => exact hbefore (ne_failed_of_enter hmove).1
  | fail =>
      rw [hmove] at hafter
      exact absurd rfl hafter
  | _ =>
      rw [hmove] at hafter
      exact hbefore hafter

theorem run_failedAt_eq_zero (cfg : Settings) (began : Int) (calls : List Call) :
    ((start began).run cfg calls).stage ≠ .failed → ((start began).run cfg calls).failedAt = 0 :=
  run_induction (P := fun s => s.stage ≠ .failed → s.failedAt = 0) (fun _ => rfl)
    (after_failedAt_eq_zero cfg) calls

end State

open State in
/-- Two runs that differ in nothing but a clock that is ahead by `d` in the second agree
at every step in all that the sync answers, tells and asks, and in all but the times on
record.  Those are ahead by `d` too, and no time of failure is on record in either
unless both have failed. -/
theorem clock_shift_of_each_run (cfg : Settings) (began d : Int) (calls : List Call) :
    let s := (start began).run cfg calls
    let t := (start (began + d)).run cfg (calls.map (Call.later d))
    (∀ now peers op,
      t.reply cfg (now + d) op = s.reply cfg now op ∧
      (t.outcome cfg ⟨now + d, peers, op⟩).events = (s.outcome cfg ⟨now, peers, op⟩).events ∧
      (t.outcome cfg ⟨now + d, peers, op⟩).requests = (s.outcome cfg ⟨now, peers, op⟩).requests) ∧
    t.stage = s.stage ∧ t.attempt = s.attempt ∧ t.ticks = s.ticks ∧
    t.reachedBest = s.reachedBest ∧ t.tip = s.tip ∧
    t.startedAt = s.startedAt + d ∧
    (s.stage = .failed → t.failedAt = s.failedAt + d) ∧
    (s.stage ≠ .failed → s.failedAt = 0 ∧ t.failedAt = 0) := by
  intro s t
  have hlater : t = s.later d := run_later cfg d (start began) calls
  rw [hlater]
  refine ⟨?_, rfl, rfl, rfl, rfl, rfl, rfl, ?_, ?_⟩
  · intro now peers op
    have houtcome : (s.later d).outcome cfg ⟨now + d, peers, op⟩ =
        (s.outcome cfg ⟨now, peers, op⟩).later d := outcome_later cfg d s ⟨now, peers, op⟩
    rw [houtcome]
    exact ⟨reply_later cfg d s ⟨now, peers, op⟩, rfl, rfl⟩
  · intro hfailed
    exact if_pos hfailed
  · intro hunfailed
    have hzero : s.failedAt = 0 := run_failedAt_eq_zero cfg began calls hunfailed
    exact ⟨hzero, (if_neg hunfailed).trans hzero⟩

end QuorumNode.Sync
