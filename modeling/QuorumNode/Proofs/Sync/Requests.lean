/-
Who is asked, and for what.  Within a session every request adds a new peer to
those that were tried, so the sound bookkeeping of sessions bounds the requests.
-/
import Mathlib.Data.List.Nodup
import QuorumNode.Proofs.Sync.Session
import QuorumNode.Proofs.Sync.Site

namespace QuorumNode.Sync

namespace Step

/-- Whether a step begins a session. -/
def Opens (cfg : Settings) (x : Step) : Prop :=
  x.restarts cfg = true ∨ x.before.stage.next? = some (x.after cfg).stage

end Step

theorem Stage.terminal_eq_false_of_next? {stage next : Stage} (hnext : stage.next? = some next)
    (hunfinished : next ≠ .finished) : next.terminal = false := by
  cases stage <;> simp [next?] at hnext <;> subst hnext <;> simp [terminal] at hunfinished ⊢

/-- At most one peer is asked, so there is no order to turn round. -/
theorem Move.reverse_asked (move : Move) : move.asked.toList.reverse = move.asked.toList := by
  cases move.asked <;> rfl

namespace State

variable {cfg : Settings} {s : State} {call : Call}

/-- Only connected peers are asked, and only for a stage that has not ended. -/
theorem asked_move {peer : Peer} (hasked : (s.move cfg call).asked = some peer) :
    peer ∈ call.peers ∧ (s.after cfg call).stage.terminal = false := by
  have hallows := s.allows_move cfg call
  rw [after_stage]
  cases hmove : s.move cfg call with
  | rest | bump | restart | fail =>
      rw [hmove] at hasked
      cases hasked
  | enter next asked =>
      rw [hmove] at hallows hasked
      obtain ⟨hnext, hhead, -⟩ := hallows
      change asked = some peer at hasked
      rw [hasked] at hhead
      by_cases hfinished : next = .finished
      · rw [if_pos hfinished] at hhead
        cases hhead
      · rw [if_neg hfinished] at hhead
        exact ⟨List.mem_of_head? hhead.symm, Stage.terminal_eq_false_of_next? hnext hfinished⟩
  | ask asked =>
      rw [hmove] at hallows hasked
      obtain ⟨-, hrunning, -, huntried⟩ := hallows
      cases hasked
      exact ⟨(untried?_eq_some huntried).1, hrunning⟩
  | retry asked =>
      rw [hmove] at hallows hasked
      obtain ⟨⟨-, hrunning, -⟩, -, huntried⟩ := hallows
      cases hasked
      exact ⟨(untried?_eq_some huntried).1, hrunning⟩

theorem outcome_requests_cases (cfg : Settings) (s : State) (call : Call) :
    (s.outcome cfg call).requests = [] ∨
      ∃ peer ∈ call.peers, (s.after cfg call).stage.terminal = false ∧
        (s.outcome cfg call).requests = [Request.ofStage (s.after cfg call).stage peer] := by
  rw [outcome_requests]
  cases hasked : (s.move cfg call).asked with
  | none => exact Or.inl rfl
  | some peer =>
      obtain ⟨hpeer, hrunning⟩ := asked_move hasked
      exact Or.inr ⟨peer, hpeer, hrunning, rfl⟩

theorem outcome_peers (cfg : Settings) (s : State) (call : Call) :
    (s.outcome cfg call).requests.map Request.peer = (s.move cfg call).asked.toList := by
  rw [outcome_requests]
  cases (s.move cfg call).asked with
  | none => rfl
  | some peer => simp

/-- The peers that are asked, the last one first. -/
theorem requests_cons_peers (cfg : Settings) (s : State) (call : Call) (rest : List Call) :
    ((s.requests cfg (call :: rest)).map Request.peer).reverse =
      (((s.after cfg call).requests cfg rest).map Request.peer).reverse ++
        (s.move cfg call).asked.toList := by
  rw [requests_cons, List.map_append, List.reverse_append, outcome_peers,
    Move.reverse_asked]

theorem after_tried_eq_asked_append (cfg : Settings) (s : State) (call : Call) :
    ∃ old, (s.after cfg call).tried = (s.move cfg call).asked.toList ++ old := by
  rw [after_tried]
  cases s.move cfg call with
  | rest | bump | fail | ask | retry => exact ⟨s.tried, rfl⟩
  | restart => exact ⟨[], rfl⟩
  | enter next asked => exact ⟨[], (List.append_nil _).symm⟩

/-- Within a session nobody is forgotten. -/
theorem after_tried_of_not_opens (hwithin : ¬Step.Opens cfg ⟨s, call⟩) :
    (s.after cfg call).tried = (s.move cfg call).asked.toList ++ s.tried := by
  have hallows := s.allows_move cfg call
  cases hmove : s.move cfg call with
  | rest | bump | fail | ask | retry =>
      rw [after_tried, hmove]
      rfl
  | restart notify =>
      rw [hmove] at hallows
      exact absurd (Or.inl hallows) hwithin
  | enter next asked =>
      rw [hmove] at hallows
      have hstage : (s.after cfg call).stage = next := by
        rw [after_stage, hmove]
        rfl
      exact absurd (Or.inr (hallows.1.trans (congrArg some hstage.symm))) hwithin

theorem run_tried_of_not_opens (calls : List Call)
    (hwithin : ∀ x ∈ s.trace cfg calls, ¬x.Opens cfg) :
    (s.run cfg calls).tried = ((s.requests cfg calls).map Request.peer).reverse ++ s.tried := by
  induction calls generalizing s with
  | nil => rfl
  | cons call rest ih =>
      have hfirst : ¬Step.Opens cfg ⟨s, call⟩ := hwithin _ List.mem_cons_self
      have hrest := ih fun x hx => hwithin x (List.mem_cons_of_mem _ hx)
      rw [run_cons, hrest, after_tried_of_not_opens hfirst, requests_cons_peers,
        List.append_assoc]

/-- The peers that are asked in a session are the last ones on record. -/
theorem run_tried_of_session (session : List Call)
    (hwithin : ∀ x ∈ (s.trace cfg session).tail, ¬x.Opens cfg) :
    ∃ old, (s.run cfg session).tried =
      ((s.requests cfg session).map Request.peer).reverse ++ old := by
  cases session with
  | nil => exact ⟨s.tried, rfl⟩
  | cons first rest =>
      obtain ⟨old, hold⟩ := s.after_tried_eq_asked_append cfg first
      have hrest := run_tried_of_not_opens (s := s.after cfg first) rest hwithin
      refine ⟨old, ?_⟩
      rw [run_cons, hrest, hold, requests_cons_peers, List.append_assoc]

end State

/-- In every run, each call asks at most one peer, a connected one, for the
stage it leads to; a session asks nobody twice and is bounded by the attempts;
and the transport passes on what is asked, in order and without loss. -/
theorem requests_of_each_run (cfg : Settings) (began : Int) :
    (∀ calls call,
      let s := (State.start began).run cfg calls
      let t := s.after cfg call
      (s.outcome cfg call).requests = [] ∨
        ∃ peer ∈ call.peers, t.stage ≠ .failed ∧ t.stage ≠ .finished ∧
          (s.outcome cfg call).requests =
            [if t.stage = .governance then .governanceSync peer else .stageData t.stage peer]) ∧
    (∀ before session,
      let s := (State.start began).run cfg before
      (∀ x ∈ (s.trace cfg session).tail, ¬x.Opens cfg) →
        ((s.requests cfg session).map Request.peer).Nodup ∧
          (s.requests cfg session).length ≤ cfg.maxAttempts + 1) ∧
    (∀ peers happenings,
      let site := (Site.start cfg began peers).run happenings
      let calls := (Site.start cfg began peers).calls happenings
      site.machine.state = (State.start began).run cfg calls ∧
        site.batches.flatten ++ site.transport.queue =
          (State.start began).requests cfg calls) := by
  refine ⟨?_, ?_, ?_⟩
  · intro calls call s t
    rcases s.outcome_requests_cases cfg call with hnone | ⟨peer, hpeer, hrunning, hrequest⟩
    · exact Or.inl hnone
    · refine Or.inr ⟨peer, hpeer, Stage.ne_failed_of_terminal hrunning, ?_, hrequest⟩
      intro hfinished
      rw [hfinished] at hrunning
      cases hrunning
  · intro before session s hwithin
    obtain ⟨old, hold⟩ := State.run_tried_of_session session hwithin
    have hsound : (s.run cfg session).Sound cfg := by
      rw [← State.run_append]
      exact State.sound_run cfg began (before ++ session)
    have hnodup := hsound.tried_nodup
    have hlength := hsound.tried_length_le
    rw [hold] at hnodup hlength
    constructor
    · exact List.nodup_reverse.mp hnodup.of_append_left
    · simp only [List.length_append, List.length_reverse, List.length_map] at hlength
      omega
  · intro peers happenings site calls
    exact ⟨Site.run_state _ happenings, Site.run_sent _ happenings⟩

end QuorumNode.Sync
