/-
The stages only go forward, one at a time, unless the sync fails or starts
again.  Failure ends with a reset and with nothing else.
-/
import QuorumNode.Proofs.Sync.Decision

namespace QuorumNode.Sync

namespace State

variable {cfg : Settings} {s : State} {call : Call}

theorem after_stage_of_restarts (hrestarts : s.restarts cfg call = true) :
    (s.after cfg call).stage = .blockchain := by
  obtain ⟨notify, hafter⟩ := after_of_restarts hrestarts
  rw [hafter]
  rfl

/-- A settled blockchain is followed by governance. -/
theorem eq_governance_of_next?_blockchain {stage next : Stage} (hstage : stage = .blockchain)
    (hnext : stage.next? = some next) : next = .governance := by
  subst stage
  exact (Option.some.inj hnext).symm

/-- The moves that change the stage: on to the next one, to failure, or back to
the start. -/
theorem after_stage_cases (cfg : Settings) (s : State) (call : Call) :
    (s.after cfg call).stage = s.stage ∨
      (s.stage.next? = some (s.after cfg call).stage ∧
        (call.op = .advance ∨ s.Served call ∨
          (call.op.ticks = true ∧ s.stage = .blockchain ∧
            (s.after cfg call).stage = .governance))) ∨
      ((s.after cfg call).stage = .failed ∧ call.op.ticks = true ∧
        s.stage.terminal = false) ∨
      ((s.after cfg call).stage = .blockchain ∧ s.restarts cfg call = true) := by
  have hallows := s.allows_move cfg call
  rw [after_stage]
  cases hmove : s.move cfg call with
  | rest | bump | ask | retry => exact Or.inl rfl
  | restart notify =>
      rw [hmove] at hallows
      exact Or.inr (Or.inr (Or.inr ⟨rfl, hallows⟩))
  | enter next asked =>
      rw [hmove] at hallows
      obtain ⟨hnext, -, hcause⟩ := hallows
      refine Or.inr (Or.inl ⟨hnext, ?_⟩)
      rcases hcause with hadvance | hserved | ⟨hdue, hstage, -, -⟩
      · exact Or.inl hadvance
      · exact Or.inr (Or.inl hserved)
      · exact Or.inr (Or.inr ⟨hdue.1, hstage, eq_governance_of_next?_blockchain hstage hnext⟩)
  | fail =>
      rw [hmove] at hallows
      obtain ⟨⟨hdue, hrunning, -⟩, -⟩ := hallows
      exact Or.inr (Or.inr (Or.inl ⟨rfl, hdue.1, hrunning⟩))

/-- A failed sync is restarted by a reset only. -/
theorem reset_of_restarts_of_failed (hstage : s.stage = .failed)
    (hrestarts : s.restarts cfg call = true) : ∃ force notify, call.op = .reset force notify := by
  obtain ⟨now, peers, op⟩ := call
  cases op with
  | reset force notify => exact ⟨force, notify, rfl⟩
  | _ => simp [restarts, hstage, Stage.terminal] at hrestarts

/-- A finished sync is restarted by force or by a suspension. -/
theorem forced_of_restarts_of_finished (hstage : s.stage = .finished)
    (hrestarts : s.restarts cfg call = true) :
    (∃ notify, call.op = .reset true notify) ∨
      (call.op.ticks = true ∧ cfg.suspendRestart < call.now - s.tickedAt) := by
  obtain ⟨now, peers, op⟩ := call
  cases op with
  | reset force notify =>
      have hforce : force = true := by simpa [restarts, hstage] using hrestarts
      exact Or.inl ⟨notify, by rw [hforce]⟩
  | tick | maintain =>
      have hlate : cfg.suspendRestart < now - s.tickedAt := by
        simpa [restarts, hstage] using hrestarts
      exact Or.inr ⟨rfl, hlate⟩
  | _ => simp [restarts, hstage, Stage.terminal] at hrestarts

/-- Out of a stage that is terminal only a restart leads. -/
theorem restarts_of_terminal (hterminal : s.stage.terminal = true)
    (hchanged : (s.after cfg call).stage ≠ s.stage) : s.restarts cfg call = true := by
  rcases s.after_stage_cases cfg call with hsame | ⟨hnext, -⟩ | ⟨-, -, hrunning⟩ | ⟨-, hrestarts⟩
  · exact absurd hsame hchanged
  · cases hstage : s.stage <;> simp [hstage, Stage.terminal, Stage.next?] at hterminal hnext
  · rw [hterminal] at hrunning
    cases hrunning
  · exact hrestarts

/-- Whatever else is called, a failed sync waits for its reset. -/
theorem run_stage_of_failed (hfailed : s.stage = .failed) (calls : List Call)
    (hnone : ∀ call ∈ calls, ∀ force notify, call.op ≠ .reset force notify) :
    (s.run cfg calls).stage = .failed := by
  induction calls generalizing s with
  | nil => exact hfailed
  | cons call rest ih =>
      refine ih ?_ fun later hlater => hnone later (List.mem_cons_of_mem call hlater)
      by_cases hleft : (s.after cfg call).stage = s.stage
      · rw [hleft, hfailed]
      · have hrestarts : s.restarts cfg call = true :=
          restarts_of_terminal (by rw [hfailed]; rfl) hleft
        obtain ⟨force, notify, hreset⟩ := reset_of_restarts_of_failed hfailed hrestarts
        exact absurd hreset (hnone call List.mem_cons_self force notify)

end State

/-- In every run, each call leaves the stage as it is, takes it to the one that
follows, lets it fail, or takes it back to the first. -/
theorem stage_of_each_call (cfg : Settings) (began : Int) (calls : List Call) (call : Call) :
    let s := (State.start began).run cfg calls
    let t := s.after cfg call
    (t.stage = s.stage ∨
      (s.stage.next? = some t.stage ∧
        (call.op = .advance ∨ s.Served call ∨
          (call.op.ticks = true ∧ s.stage = .blockchain ∧ t.stage = .governance))) ∨
      (t.stage = .failed ∧ call.op.ticks = true ∧ s.stage.terminal = false) ∨
      (t.stage = .blockchain ∧ s.restarts cfg call = true)) ∧
    (s.restarts cfg call = true → t.stage = .blockchain) ∧
    (s.stage = .failed → t.stage ≠ .failed → ∃ force notify, call.op = .reset force notify) ∧
    (s.stage = .finished → t.stage ≠ .finished →
      (∃ notify, call.op = .reset true notify) ∨
        (call.op.ticks = true ∧ cfg.suspendRestart < call.now - s.tickedAt)) := by
  intro s t
  refine ⟨s.after_stage_cases cfg call, State.after_stage_of_restarts, ?_, ?_⟩
  · intro hfailed hleft
    apply State.reset_of_restarts_of_failed hfailed
    apply State.restarts_of_terminal
    · rw [hfailed]
      rfl
    · rwa [hfailed]
  · intro hfinished hleft
    apply State.forced_of_restarts_of_finished hfinished
    apply State.restarts_of_terminal
    · rw [hfinished]
      rfl
    · rwa [hfinished]

end QuorumNode.Sync
