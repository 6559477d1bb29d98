/-
A session is the time a stage is worked on: from its start, when a stage is
entered or the sync restarts, to the next of these.  Its peers are asked one
after the other, none of them twice, and the timeouts count all of them but at
most one.
-/
import QuorumNode.Proofs.Sync.Decision

namespace QuorumNode.Sync

@[simp] theorem Request.peer_ofStage (stage : Stage) (peer : Peer) :
    (Request.ofStage stage peer).peer = peer := by
  unfold Request.ofStage
  split <;> rfl

theorem Stage.ne_failed_of_next? {stage next : Stage} (hnext : stage.next? = some next) :
    next ≠ .failed := by
  cases stage <;> simp [next?] at hnext <;> simp [← hnext]

theorem Stage.ne_failed_of_terminal {stage : Stage} (hrunning : stage.terminal = false) :
    stage ≠ .failed := by
  rintro rfl
  simp [terminal] at hrunning

namespace State

/-- The bookkeeping of a session.  The first request of a stage is no retry, so
one more peer may have been asked than timeouts counted; a failure counts the
timeout after which nobody was asked. -/
structure Sound (cfg : Settings) (s : State) : Prop where
  tried_nodup : s.tried.Nodup
  running : s.stage ≠ .failed →
    (s.current = none ↔ s.tried = []) ∧ s.attempt ≤ cfg.maxAttempts ∧
      (s.tried.length = s.attempt ∨ s.tried.length = s.attempt + 1)
  failed : s.stage = .failed →
    s.attempt ≤ cfg.maxAttempts + 1 ∧
      (s.tried.length + 1 = s.attempt ∨ s.tried.length = s.attempt)

variable {cfg : Settings} {s : State}

theorem Sound.attempt_le (hsound : s.Sound cfg) : s.attempt ≤ cfg.maxAttempts + 1 := by
  by_cases hfailed : s.stage = .failed
  · exact (hsound.failed hfailed).1
  · exact Nat.le_succ_of_le (hsound.running hfailed).2.1

theorem Sound.tried_length_le (hsound : s.Sound cfg) : s.tried.length ≤ cfg.maxAttempts + 1 := by
  by_cases hfailed : s.stage = .failed
  · obtain ⟨hattempt, hlength⟩ := hsound.failed hfailed
    omega
  · obtain ⟨-, hattempt, hlength⟩ := hsound.running hfailed
    omega

theorem sound_start (cfg : Settings) (began : Int) : (start began).Sound cfg where
  tried_nodup := List.nodup_nil
  running := by simp [start]
  failed := by simp [start]

theorem sound_restart (cfg : Settings) (s : State) (now : Int) (notify : Bool) :
    (s.restart now notify).state.Sound cfg where
  tried_nodup := List.nodup_nil
  running := by simp [restart]
  failed := by simp [restart]

theorem sound_entered (cfg : Settings) (s : State) (now : Int) {stage : Stage}
    (hstage : stage ≠ .failed) (asked : Option Peer) : (s.entered now stage asked).Sound cfg := by
  cases asked with
  | none => exact ⟨List.nodup_nil, by simp [entered], fun hfailed => absurd hfailed hstage⟩
  | some peer =>
      exact ⟨by simp [entered], by simp [entered], fun hfailed => absurd hfailed hstage⟩

/-- Nobody has been asked before the first request of a stage. -/
theorem Sound.ask (hsound : s.Sound cfg) (hstage : s.stage ≠ .failed)
    (hcurrent : s.current = none) (peer : Peer) : (s.contact peer).Sound cfg := by
  obtain ⟨hnone, hattempt, hlength⟩ := hsound.running hstage
  have htried : s.tried = [] := hnone.mp hcurrent
  refine ⟨?_, ?_, fun hfailed => absurd hfailed hstage⟩
  · simp [contact, htried]
  · intro _
    rw [htried] at hlength
    simp only [List.length_nil] at hlength
    refine ⟨by simp [contact], hattempt, ?_⟩
    simp only [contact, htried, List.length_singleton]
    omega

theorem Sound.retry (hsound : s.Sound cfg) (hstage : s.stage ≠ .failed)
    (hleft : s.attempt < cfg.maxAttempts) {peer : Peer} (hpeer : peer ∉ s.tried) (now : Int) :
    Sound cfg { s.contact peer with attempt := s.attempt + 1, bumpedAt := now } := by
  obtain ⟨-, -, hlength⟩ := hsound.running hstage
  refine ⟨List.nodup_cons.mpr ⟨hpeer, hsound.tried_nodup⟩, ?_,
    fun hfailed => absurd hfailed hstage⟩
  intro _
  refine ⟨by simp [contact], hleft, ?_⟩
  simp only [contact, List.length_cons]
  omega

theorem Sound.fail (hsound : s.Sound cfg) (hstage : s.stage ≠ .failed) (now : Int) :
    (State.fail now { s with attempt := s.attempt + 1 }).state.Sound cfg := by
  obtain ⟨-, hattempt, hlength⟩ := hsound.running hstage
  refine ⟨hsound.tried_nodup, fun hrunning => absurd rfl hrunning, ?_⟩
  intro _
  simp only [State.fail]
  omega

theorem untried?_eq_some {peers : List Peer} {peer : Peer}
    (hpeer : s.untried? peers = some peer) : peer ∈ peers ∧ peer ∉ s.tried := by
  refine ⟨List.mem_of_find?_eq_some hpeer, ?_⟩
  rw [untried?] at hpeer
  have hfound := List.find?_some hpeer
  simpa using hfound

theorem Sound.after (hsound : s.Sound cfg) (call : Call) : (s.after cfg call).Sound cfg := by
  have hnoted : (s.note cfg call).Sound cfg :=
    ⟨hsound.tried_nodup, hsound.running, hsound.failed⟩
  have hallows := s.allows_move cfg call
  rw [State.after, outcome_eq_act]
  cases hmove : s.move cfg call with
  | rest => exact hnoted
  | bump => exact ⟨hnoted.tried_nodup, hnoted.running, hnoted.failed⟩
  | restart notify => exact sound_restart cfg _ call.now notify
  | enter next asked =>
      rw [hmove] at hallows
      exact sound_entered cfg _ call.now (Stage.ne_failed_of_next? hallows.1) asked
  | ask peer =>
      rw [hmove] at hallows
      obtain ⟨-, hrunning, hcurrent, -⟩ := hallows
      exact hnoted.ask (Stage.ne_failed_of_terminal hrunning) hcurrent peer
  | retry peer =>
      rw [hmove] at hallows
      obtain ⟨⟨-, hrunning, -⟩, hleft, hpeer⟩ := hallows
      exact hnoted.retry (Stage.ne_failed_of_terminal hrunning) hleft
        (untried?_eq_some hpeer).2 call.now
  | fail =>
      rw [hmove] at hallows
      obtain ⟨⟨-, hrunning, -⟩, -⟩ := hallows
      exact hnoted.fail (Stage.ne_failed_of_terminal hrunning) call.now

theorem sound_run (cfg : Settings) (began : Int) (calls : List Call) :
    ((start began).run cfg calls).Sound cfg :=
  run_induction (sound_start cfg began) (fun _ call hsound => hsound.after call) calls

end State

end QuorumNode.Sync
