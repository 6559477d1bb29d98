/-
When the best header counts as reached.  The flag of the state is raised by calls
that find the tip there with nobody ahead, all of them and no others, and only a
stale tip or a restart takes it back.
-/
import QuorumNode.Proofs.Sync.Evidence

namespace QuorumNode.Sync

/-- A call that tells of the headers or the tip while the sync is on its way, and
with which the tip is at the best header and no peer is known to be further. -/
structure Arrives (cfg : Settings) (began : Int) (calls : List Call) (call : Call) :
    Prop where
  announced : call.op.announces = true
  unfailed : ((State.start began).run cfg calls).stage ≠ .failed
  unfinished : ((State.start began).run cfg calls).stage ≠ .finished
  arrived : ShowsBest cfg began (calls ++ [call])

namespace State

variable {cfg : Settings} {began : Int} {s : State} {calls : List Call} {call : Call}

/-- A tip that is the best header starts nothing again. -/
theorem restarts_eq_false_of_caughtUp (hannounces : call.op.announces = true)
    (hcaught : (s.after cfg call).CaughtUp) : s.restarts cfg call = false := by
  obtain ⟨tip, best, htip, hbest, hhash, -⟩ := hcaught
  rw [after_tip] at htip
  rw [after_bestHeader] at hbest
  obtain ⟨now, peers, op⟩ := call
  cases op with
  | headerTip header initialDownload => rfl
  | blockTip noted initialDownload =>
      cases htip
      simp only [notedBest] at hbest
      simp [restarts, hbest, hhash]
  | _ => cases hannounces

theorem confirms_of_caughtUp (hannounces : call.op.announces = true)
    (hrunning : s.stage.terminal = false) (hcaught : (s.after cfg call).CaughtUp) :
    s.confirms call = true := by
  have hrestarts := restarts_eq_false_of_caughtUp hannounces hcaught
  -- What the call notes is what it leaves behind, as it does not restart.
  have hnoted :
      CaughtUp { s with tip := s.notedTip call, bestHeader := s.notedBest call } := by
    obtain ⟨tip, best, htip, hbest, hhash, hheights⟩ := hcaught
    rw [after_tip] at htip
    rw [after_bestHeader] at hbest
    rw [(after_of_not_restarts hrestarts).2.1, s.notedHeights_of_announces hannounces] at hheights
    exact ⟨tip, best, htip, hbest, hhash, hheights⟩
  exact confirms_eq_true_iff.mpr ⟨hannounces, hrunning, atBest_eq_true_iff.mpr hnoted⟩

theorem drops_eq_true_iff :
    s.drops cfg call = true ↔
      (call.op = .checkTip ∨ call.op = .maintain) ∧ s.tipIsStale cfg call.now = true := by
  obtain ⟨now, peers, op⟩ := call
  cases op <;> simp [drops]

/-- The calls that find the sync at the best header. -/
theorem arrives_iff :
    Arrives cfg began calls call ↔
      ((start began).run cfg calls).confirms call = true ∧
        ((start began).run cfg calls).restarts cfg call = false := by
  constructor
  · rintro ⟨hannounces, hunfailed, hunfinished, harrived⟩
    have hcaught := run_caughtUp_iff.mpr harrived
    rw [run_concat] at hcaught
    have hrunning := (Stage.terminal_eq_false_iff _).mpr ⟨hunfailed, hunfinished⟩
    exact ⟨confirms_of_caughtUp hannounces hrunning hcaught,
      restarts_eq_false_of_caughtUp hannounces hcaught⟩
  · rintro ⟨hconfirms, hrestarts⟩
    obtain ⟨hannounces, hrunning, -⟩ := confirms_eq_true_iff.mp hconfirms
    obtain ⟨hunfailed, hunfinished⟩ := (Stage.terminal_eq_false_iff _).mp hrunning
    have hcaught := caughtUp_after_of_confirms hconfirms hrestarts
    rw [← run_concat] at hcaught
    exact ⟨hannounces, hunfailed, hunfinished, run_caughtUp_iff.mp hcaught⟩

end State

open State in
/-- In every run: what is on record of a peer is what it last advertised, unless that
has been wiped out since, and of header and tip it is what was told last; the best header
comes to be reached with a call that shows it, and it is reached after every such call;
and it ceases to be with a restart or a tip that is found stale. -/
theorem best_header_of_each_run (cfg : Settings) (began : Int) (calls : List Call) :
    let s := (start began).run cfg calls
    (∀ peer height, s.heights.height? peer = some height ↔
      Advertised cfg began calls peer height) ∧
    s.bestHeader = lastHeader? calls ∧
    s.tip = lastTip? calls ∧
    ∀ call,
      let t := (start began).run cfg (calls ++ [call])
      (s.reachedBest = false → t.reachedBest = true → Arrives cfg began calls call) ∧
      (Arrives cfg began calls call → t.reachedBest = true) ∧
      (s.reachedBest = true →
        (t.reachedBest = false ↔ s.restarts cfg call = true ∨
          (call.op = .checkTip ∨ call.op = .maintain) ∧ s.tipIsStale cfg call.now = true)) := by
  intro s
  refine ⟨height?_run_eq_some_iff cfg began calls, run_bestHeader cfg began calls,
    run_tip cfg began calls, ?_⟩
  intro call t
  have hafter : t.reachedBest = (!s.restarts cfg call && s.notedReached cfg call) := by
    rw [← after_reachedBest, ← run_concat]
  refine ⟨?_, ?_, ?_⟩
  · intro hbefore hreached
    rw [hafter, notedReached, hbefore, Bool.false_and, Bool.false_or, Bool.and_eq_true,
      Bool.not_eq_true'] at hreached
    exact arrives_iff.mpr ⟨hreached.2, hreached.1⟩
  · intro harrives
    obtain ⟨hconfirms, hrestarts⟩ := arrives_iff.mp harrives
    rw [hafter, hrestarts, notedReached, hconfirms, Bool.or_true]
    rfl
  · intro hbefore
    rw [← drops_eq_true_iff, hafter, notedReached, hbefore]
    cases hdrops : s.drops cfg call with
    | false => simp
    | true =>
        have hunconfirmed : s.confirms call = false := by
          rw [← Bool.not_eq_true]
          intro hconfirms
          rw [drops_eq_false_of_confirms hconfirms] at hdrops
          cases hdrops
        simp [hunconfirmed]

/-- Two peers advertise their heights, and one of them is gone at the next tick.  Only the
other one's height has to be matched by the header, and the block of that header arrives.
A block elsewhere then loses the best header again. -/
theorem best_header_of_each_run_arrives :
    let calls : List Call :=
      [⟨1, ["p", "q"], .receive "p" (.bestHeight 4)⟩,
        ⟨2, ["p", "q"], .receive "q" (.bestHeight 9)⟩, ⟨3, ["p"], .tick⟩,
        ⟨10, ["p"], .headerTip ⟨5, ⟨7⟩⟩ false⟩]
    let call : Call := ⟨12, ["p"], .blockTip ⟨5, ⟨7⟩⟩ false⟩
    let other : Call := ⟨13, ["p"], .blockTip ⟨6, ⟨8⟩⟩ false⟩
    Advertised {} 0 calls "p" 4 ∧ ¬Advertised {} 0 calls "q" 9 ∧
      Arrives {} 0 calls call ∧
      ((State.start 0).run {} (calls ++ [call])).reachedBest = true ∧
      ((State.start 0).run {} (calls ++ [call] ++ [other])).reachedBest = false := by
  intro calls call other
  obtain ⟨hheights, -, -, hcalls⟩ := best_header_of_each_run {} 0 calls
  obtain ⟨-, -, -, hlater⟩ := best_header_of_each_run {} 0 (calls ++ [call])
  have harrives : Arrives {} 0 calls call := (hcalls call).1 (by decide) (by decide)
  have hreached := (hcalls call).2.1 harrives
  refine ⟨(hheights "p" 4).mp (by decide), ?_, harrives, hreached, ?_⟩
  · intro hgone
    have hheight := (hheights "q" 9).mpr hgone
    exact absurd hheight (by decide)
  · exact ((hlater other).2.2 hreached).mpr (Or.inl (by decide))

end QuorumNode.Sync
