/-
What a sync has on record always fits together: the attempts, the peers that were asked
and the one asked last, the time of a failure, and what is known of the chain once the
best header counts as reached.  As the attempts stay within their limit, a counter of 32
bits is wide enough for them.
-/
import QuorumNode.Proofs.Sync.ClockShift
import QuorumNode.Proofs.Sync.Silence

namespace QuorumNode.Sync

namespace Move

/-- When the sync failed, after a move made at `now`. -/
def failedAt (before now : Int) : Move → Int
  | restart _ => 0
  | fail => now
  | _ => before

end Move

namespace State

/-- What holds of a state besides the counts of its session. -/
structure Orderly (s : State) : Prop where
  current_tried : ∀ peer, s.current = some peer → peer ∈ s.tried
  finished : s.stage = .finished → s.attempt = 0 ∧ s.tried = []
  failed : s.stage = .failed → 1 ≤ s.attempt ∧ s.current = none
  known : s.reachedBest = true →
    (∃ tip, s.tip = some tip) ∧ ∃ best, s.bestHeader = some best

variable {cfg : Settings} {s : State} {call : Call}

theorem orderly_start (began : Int) : (start began).Orderly where
  current_tried := by simp [start]
  finished := by simp [start]
  failed := by simp [start]
  known := by simp [start]

/-- Nobody is asked within a stage that has ended. -/
theorem running_of_asks {peer : Peer}
    (hasks : s.move cfg call = .ask peer ∨ s.move cfg call = .retry peer) :
    s.stage.terminal = false := by
  have hallows := s.allows_move cfg call
  rcases hasks with hmove | hmove
  · rw [hmove] at hallows
    exact hallows.2.1
  · rw [hmove] at hallows
    exact hallows.1.2.1

/-- The peer asked last is on record with the others. -/
theorem after_current_mem_tried (hbefore : ∀ peer, s.current = some peer → peer ∈ s.tried)
    {peer : Peer} (hpeer : (s.after cfg call).current = some peer) :
    peer ∈ (s.after cfg call).tried := by
  rw [after_current] at hpeer
  rw [after_tried]
  cases hmove : s.move cfg call with
  | rest | bump =>
      rw [hmove] at hpeer
      exact hbefore peer hpeer
  | restart | fail =>
      rw [hmove] at hpeer
      cases hpeer
  | enter next asked =>
      rw [hmove] at hpeer
      exact Option.mem_toList.mpr hpeer
  | ask asked | retry asked =>
      rw [hmove] at hpeer
      cases hpeer
      exact List.mem_cons_self

/-- The last stage is entered without a request, and nobody is asked in it. -/
theorem after_of_finished (hbefore : s.stage = .finished → s.attempt = 0 ∧ s.tried = [])
    (hfinished : (s.after cfg call).stage = .finished) :
    (s.after cfg call).attempt = 0 ∧ (s.after cfg call).tried = [] := by
  have hallows := s.allows_move cfg call
  rw [after_stage] at hfinished
  rw [after_attempt, after_tried]
  cases hmove : s.move cfg call with
  | rest | bump =>
      rw [hmove] at hfinished
      exact hbefore hfinished
  | restart | fail =>
      rw [hmove] at hfinished
      cases hfinished
  | enter next asked =>
      rw [hmove] at hallows hfinished
      change next = .finished at hfinished
      obtain ⟨-, hasked, -⟩ := hallows
      rw [if_pos hfinished] at hasked
      rw [hasked]
      exact ⟨rfl, rfl⟩
  | ask asked =>
      rw [hmove] at hfinished
      exact absurd hfinished (s.stage.terminal_eq_false_iff.mp (running_of_asks (.inl hmove))).2
  | retry asked =>
      rw [hmove] at hfinished
      exact absurd hfinished (s.stage.terminal_eq_false_iff.mp (running_of_asks (.inr hmove))).2

/-- A sync that has failed either had failed before, at the time on record, or fails with
a tick that counts one more attempt. -/
theorem after_of_failed (hfailed : (s.after cfg call).stage = .failed) :
    (s.stage = .failed ∧ (s.after cfg call).attempt = s.attempt ∧
      (s.after cfg call).current = s.current ∧ (s.after cfg call).failedAt = s.failedAt) ∨
    (s.stage ≠ .failed ∧ call.op.ticks = true ∧ (s.after cfg call).attempt = s.attempt + 1 ∧
      (s.after cfg call).current = none ∧ (s.after cfg call).failedAt = call.now) := by
  have hallows := s.allows_move cfg call
  rw [after_stage] at hfailed
  have hfailedAt : (s.after cfg call).failedAt =
      (s.move cfg call).failedAt s.failedAt call.now := by
    rw [after, outcome_eq_act]
    cases s.move cfg call <;> rfl
  rw [after_attempt, after_current, hfailedAt]
  cases hmove : s.move cfg call with
  | rest | bump =>
      rw [hmove] at hfailed
      exact Or.inl ⟨hfailed, rfl, rfl, rfl⟩
  | restart =>
      rw [hmove] at hfailed
      cases hfailed
  | enter next asked =>
      rw [hmove] at hfailed
      exact absurd hfailed (ne_failed_of_enter hmove).2
  | ask asked =>
      rw [hmove] at hfailed
      exact absurd hfailed (Stage.ne_failed_of_terminal (running_of_asks (.inl hmove)))
  | retry asked =>
      rw [hmove] at hfailed
      exact absurd hfailed (Stage.ne_failed_of_terminal (running_of_asks (.inr hmove)))
  | fail =>
      rw [hmove] at hallows
      obtain ⟨⟨hdue, hrunning, -⟩, -⟩ := hallows
      exact Or.inr ⟨Stage.ne_failed_of_terminal hrunning, hdue.1, rfl, rfl, rfl⟩

theorem notedTip_of_known {tip : BlockRef} (htip : s.tip = some tip) (call : Call) :
    ∃ noted, s.notedTip call = some noted := by
  unfold notedTip
  split
  · exact ⟨_, rfl⟩
  · exact ⟨tip, htip⟩

theorem notedBest_of_known {best : BlockRef} (hbest : s.bestHeader = some best) (call : Call) :
    ∃ noted, s.notedBest call = some noted := by
  unfold notedBest
  split
  · exact ⟨_, rfl⟩
  · exact ⟨best, hbest⟩

/-- Tip and best header are replaced but never forgotten, and the best header cannot be
reached without both. -/
theorem after_known
    (hbefore : s.reachedBest = true →
      (∃ tip, s.tip = some tip) ∧ ∃ best, s.bestHeader = some best)
    (hreached : (s.after cfg call).reachedBest = true) :
    (∃ tip, (s.after cfg call).tip = some tip) ∧
      ∃ best, (s.after cfg call).bestHeader = some best := by
  rw [after_reachedBest, Bool.and_eq_true, notedReached, Bool.or_eq_true, Bool.and_eq_true]
    at hreached
  rw [after_tip, after_bestHeader]
  rcases hreached.2 with ⟨hreached, -⟩ | hconfirms
  · obtain ⟨⟨tip, htip⟩, best, hbest⟩ := hbefore hreached
    exact ⟨notedTip_of_known htip call, notedBest_of_known hbest call⟩
  · obtain ⟨-, -, hat⟩ := confirms_eq_true_iff.mp hconfirms
    obtain ⟨tip, best, htip, hbest, -, -⟩ := atBest_eq_true_iff.mp hat
    exact ⟨⟨tip, htip⟩, best, hbest⟩

theorem Orderly.after (horderly : s.Orderly) (cfg : Settings) (call : Call) :
    (s.after cfg call).Orderly where
  current_tried := fun _ => after_current_mem_tried horderly.current_tried
  finished := after_of_finished horderly.finished
  failed := by
    intro hfailed
    rcases after_of_failed hfailed with ⟨hbefore, hattempt, hcurrent, -⟩ |
      ⟨-, -, hattempt, hcurrent, -⟩
    · rw [hattempt, hcurrent]
      exact horderly.failed hbefore
    · rw [hattempt]
      exact ⟨Nat.le_add_left 1 s.attempt, hcurrent⟩
  known := after_known horderly.known

theorem orderly_run (cfg : Settings) (began : Int) (calls : List Call) :
    ((start began).run cfg calls).Orderly :=
  run_induction (orderly_start began) (fun _ call horderly => horderly.after cfg call) calls

/-- The time of failure on record is the time of the tick with which the sync failed.  It
has been in failure ever since. -/
theorem run_failedAt (cfg : Settings) (began : Int) (calls : List Call)
    (hfailed : ((start began).run cfg calls).stage = .failed) :
    ∃ earlier tick rest, calls = earlier ++ tick :: rest ∧ tick.op.ticks = true ∧
      ((start began).run cfg earlier).stage ≠ .failed ∧
      (∀ later, later <+: rest →
        ((start began).run cfg (earlier ++ tick :: later)).stage = .failed) ∧
      ((start began).run cfg calls).failedAt = tick.now := by
  induction calls using List.reverseRecOn with
  | nil => cases hfailed
  | append_singleton calls call ih =>
      rw [run_concat] at hfailed ⊢
      rcases after_of_failed hfailed with ⟨hbefore, -, -, hfailedAt⟩ |
        ⟨hbefore, hticks, -, -, hfailedAt⟩
      · obtain ⟨earlier, tick, rest, rfl, hticks, hunfailed, hsince, htime⟩ := ih hbefore
        refine ⟨earlier, tick, rest ++ [call], by simp, hticks, hunfailed, ?_,
          hfailedAt.trans htime⟩
        intro later hlater
        rcases List.prefix_concat_iff.mp hlater with rfl | hlater
        · rw [← List.cons_append, ← List.append_assoc, run_concat]
          exact hfailed
        · exact hsince later hlater
      · refine ⟨calls, call, [], rfl, hticks, hbefore, ?_, hfailedAt⟩
        intro later hlater
        rw [List.prefix_nil.mp hlater, run_concat]
        exact hfailed

end State

open State in
/-- In every run the attempts, the peers that were asked, the one asked last and the time
of failure agree with each other and with the stage; and a best header that counts as
reached is known, as is the tip.  So an attempt that is counted fits into 32 bits, if
those that are allowed do and are not the most that do. -/
theorem bookkeeping_of_each_run (cfg : Settings) (began : Int) (calls : List Call) :
    let s := (start began).run cfg calls
    s.tried.Nodup ∧
    (s.stage ≠ .failed →
      s.failedAt = 0 ∧ s.attempt ≤ cfg.maxAttempts ∧
      (s.tried.length = s.attempt ∨ s.tried.length = s.attempt + 1) ∧
      (s.current = none ↔ s.tried = []) ∧ ∀ peer, s.current = some peer → peer ∈ s.tried) ∧
    (s.stage = .finished → s.attempt = 0 ∧ s.tried = []) ∧
    (s.stage = .failed →
      1 ≤ s.attempt ∧ s.attempt ≤ cfg.maxAttempts + 1 ∧ s.current = none ∧
      (s.tried.length = s.attempt - 1 ∨ s.tried.length = s.attempt) ∧
      ∃ earlier tick rest, calls = earlier ++ tick :: rest ∧ tick.op.ticks = true ∧
        ((start began).run cfg earlier).stage ≠ .failed ∧
        (∀ later, later <+: rest →
          ((start began).run cfg (earlier ++ tick :: later)).stage = .failed) ∧
        s.failedAt = tick.now) ∧
    (s.reachedBest = true →
      (∃ tip, s.tip = some tip) ∧ ∃ best, s.bestHeader = some best) ∧
    (cfg.maxAttempts < 0xffffffff → ∀ call, s.attempt < (s.after cfg call).attempt →
      (s.after cfg call).attempt = s.attempt + 1 ∧ s.attempt + 1 < 0x100000000) := by
  intro s
  have hsound : s.Sound cfg := sound_run cfg began calls
  have horderly : s.Orderly := orderly_run cfg began calls
  refine ⟨hsound.tried_nodup, ?_, horderly.finished, ?_, horderly.known, ?_⟩
  · intro hunfailed
    obtain ⟨hcurrent, hattempt, hlength⟩ := hsound.running hunfailed
    exact ⟨run_failedAt_eq_zero cfg began calls hunfailed, hattempt, hlength, hcurrent,
      horderly.current_tried⟩
  · intro hfailed
    obtain ⟨hattempt, hlength⟩ := hsound.failed hfailed
    obtain ⟨hpos, hcurrent⟩ := horderly.failed hfailed
    exact ⟨hpos, hattempt, hcurrent, by omega, run_failedAt cfg began calls hfailed⟩
  · intro hmax call hcounts
    obtain ⟨hcounted, -⟩ := after_of_attempt_lt hcounts
    have hle := (hsound.after call).attempt_le
    exact ⟨hcounted, by omega⟩

/-- The only peer there is has been asked before the second timeout, so that one fails
the sync; the tick after it changes nothing. -/
theorem bookkeeping_of_each_run_one_peer :
    let calls : List Call :=
      [⟨36, ["a"], .tick⟩, ⟨67, ["a"], .tick⟩, ⟨98, ["a", "b"], .tick⟩]
    let s := (State.start 0).run {} calls
    s.stage = .failed ∧ s.attempt = 2 ∧ s.tried.length = s.attempt - 1 ∧
      ∃ earlier tick rest, calls = earlier ++ tick :: rest ∧ s.failedAt = tick.now := by
  intro calls s
  have hfailed : s.stage = .failed := by decide
  have hattempt : s.attempt = 2 := by decide
  obtain ⟨-, -, -, hrecord, -⟩ := bookkeeping_of_each_run {} 0 calls
  obtain ⟨-, -, -, hlength, earlier, tick, rest, hcalls, -, -, -, htime⟩ := hrecord hfailed
  have hfew : s.tried.length ≠ s.attempt := by decide
  exact ⟨hfailed, hattempt, hlength.resolve_right hfew, earlier, tick, rest, hcalls, htime⟩

end QuorumNode.Sync
