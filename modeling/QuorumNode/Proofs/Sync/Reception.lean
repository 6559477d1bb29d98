/-
What a message comes to, and what it does.  A sync answers every message with a disposition,
and that answer tells the whole effect: nothing, a height on record, progress, or the same
step onward that an advance takes.
-/
import QuorumNode.Proofs.Sync.Run

namespace QuorumNode.Sync

namespace Stage

theorem eq_id_of_ofId? {item : Int} {stage : Stage} (hstage : ofId? item = some stage) :
    item = stage.id := by
  rw [ofId?] at hstage
  have hfound := List.find?_some hstage
  exact (eq_of_beq hfound).symm

/-- A number is unknown if it is that of no stage. -/
theorem ofId?_eq_none_iff {item : Int} : ofId? item = none ↔ ∀ stage : Stage, stage.id ≠ item := by
  rw [ofId?, List.find?_eq_none]
  constructor
  · intro hnone stage hid
    exact hnone stage stage.mem_all (beq_iff_eq.mpr hid)
  · intro hother stage _ hid
    exact hother stage (eq_of_beq hid)

theorem terminal_eq_false_iff (stage : Stage) :
    stage.terminal = false ↔ stage ≠ .failed ∧ stage ≠ .finished := by
  cases stage <;> decide

theorem exists_next? {stage : Stage} (hrunning : stage.terminal = false) :
    ∃ next, stage.next? = some next := by
  cases stage <;> first | exact ⟨_, rfl⟩ | cases hrunning

end Stage

/-- The number of the stage that a message declares to be served. -/
def Message.item? : Message → Option Int
  | statusCount item _ => some item
  | _ => none

namespace State

/-- When a message comes to a disposition.  After the end of a sync only heights count. -/
def Warrants (s : State) (message : Message) : Disposition → Prop
  | .recorded => ∃ height, message = .bestHeight height
  | .completed => s.stage.terminal = false ∧ message.item? = some s.stage.id
  | .progress =>
      s.stage.terminal = false ∧ message.item? = none ∧ message.stage? = some s.stage
  | .stale =>
      s.stage.terminal = false ∧ ∃ about, message.stage? = some about ∧ about ≠ s.stage
  | .ignored =>
      (∀ height, message ≠ .bestHeight height) ∧
        (s.stage.terminal = true ∨
          ∃ item, message.item? = some item ∧ ∀ stage : Stage, stage.id ≠ item)

/-- What a message does that came to a disposition: nothing, a height on record for the
sender alone, progress, or all that an advance would do, which is not refused then and
leads to the next stage. -/
def Effect (cfg : Settings) (s : State) (now : Int) (peers : List Peer) (sender : Peer)
    (message : Message) : Disposition → Outcome → Prop
  | .stale, outcome | .ignored, outcome => outcome = ⟨s, [], []⟩
  | .recorded, outcome =>
      ∃ height heights, message = .bestHeight height ∧ outcome = ⟨{ s with heights }, [], []⟩ ∧
        Heights.height? heights sender = some height ∧
        ∀ other, other ≠ sender → heights.height? other = s.heights.height? other
  | .progress, outcome => outcome = ⟨{ s with bumpedAt := now }, [], []⟩
  | .completed, outcome =>
      outcome = s.outcome cfg ⟨now, peers, .advance⟩ ∧
        ∃ next, s.stage.next? = some next ∧ s.reply cfg now .advance = .stage next ∧
          outcome.state.stage = next

variable {cfg : Settings} {s : State} {message : Message} {answer : Disposition}

/-! Every message comes to one disposition -/

theorem disposition_of_terminal (hmessage : ∀ height, message ≠ .bestHeight height)
    (hterminal : s.stage.terminal = true) : s.disposition message = .ignored := by
  cases message with
  | bestHeight height => exact absurd rfl (hmessage height)
  | _ => exact if_pos hterminal

theorem disposition_of_unknown {item : Int} (hitem : message.item? = some item)
    (hunknown : ∀ stage : Stage, stage.id ≠ item) : s.disposition message = .ignored := by
  have hnone : Stage.ofId? item = none := Stage.ofId?_eq_none_iff.mpr hunknown
  cases message with
  | statusCount named count =>
      cases hitem
      simp [disposition, Message.stage?, hnone]
  | _ => cases hitem

theorem disposition_of_other {about : Stage} (hrunning : s.stage.terminal = false)
    (habout : message.stage? = some about) (hother : about ≠ s.stage) :
    s.disposition message = .stale := by
  cases message with
  | bestHeight height => cases habout
  | _ => simp [disposition, hrunning, habout, hother]

/-- A sync that has not ended does not refuse to go on. -/
theorem advanceReply_of_running (hrunning : s.stage.terminal = false) :
    ∃ next, s.stage.next? = some next ∧ s.advanceReply = .stage next := by
  obtain ⟨next, hnext⟩ := Stage.exists_next? hrunning
  exact ⟨next, hnext, by rw [advanceReply, hnext]⟩

theorem disposition_of_served (hrunning : s.stage.terminal = false)
    (hitem : message.item? = some s.stage.id) : s.disposition message = .completed := by
  obtain ⟨next, -, hallowed⟩ := advanceReply_of_running hrunning
  cases message with
  | statusCount item count =>
      cases hitem
      simp [disposition, hrunning, Message.stage?, Stage.ofId?_id, hallowed]
  | _ => cases hitem

theorem disposition_of_delivered (hrunning : s.stage.terminal = false)
    (hitem : message.item? = none) (habout : message.stage? = some s.stage) :
    s.disposition message = .progress := by
  cases message with
  | statusCount item count => cases hitem
  | bestHeight height => cases habout
  | _ => simp [disposition, hrunning, habout]

theorem disposition_eq_of_warrants (hwarrants : s.Warrants message answer) :
    s.disposition message = answer := by
  cases answer with
  | recorded =>
      obtain ⟨height, rfl⟩ := hwarrants
      rfl
  | completed => exact disposition_of_served hwarrants.1 hwarrants.2
  | progress => exact disposition_of_delivered hwarrants.1 hwarrants.2.1 hwarrants.2.2
  | stale =>
      obtain ⟨hrunning, about, habout, hother⟩ := hwarrants
      exact disposition_of_other hrunning habout hother
  | ignored =>
      obtain ⟨hmessage, hterminal | ⟨item, hitem, hunknown⟩⟩ := hwarrants
      · exact disposition_of_terminal hmessage hterminal
      · exact disposition_of_unknown hitem hunknown

/-- A message that is about a stage is about this one or about another one. -/
theorem warrants_of_stage? {about : Stage} (hrunning : s.stage.terminal = false)
    (habout : message.stage? = some about) : ∃ answer, s.Warrants message answer := by
  by_cases hsame : about = s.stage
  · rw [hsame] at habout
    cases hitem : message.item? with
    | none => exact ⟨.progress, hrunning, hitem, habout⟩
    | some item =>
        cases message with
        | statusCount named count =>
            exact ⟨.completed, hrunning, congrArg some (Stage.eq_id_of_ofId? habout)⟩
        | _ => cases hitem
  · exact ⟨.stale, hrunning, about, habout, hsame⟩

theorem exists_warrants (s : State) (message : Message) :
    ∃ answer, s.Warrants message answer := by
  by_cases hheight : ∃ height, message = .bestHeight height
  · exact ⟨.recorded, hheight⟩
  have hmessage : ∀ height, message ≠ .bestHeight height :=
    fun height hsame => hheight ⟨height, hsame⟩
  cases hterminal : s.stage.terminal with
  | true => exact ⟨.ignored, hmessage, Or.inl hterminal⟩
  | false =>
      cases habout : message.stage? with
      | some about => exact warrants_of_stage? hterminal habout
      | none =>
          -- Heights apart, only the declaration of an unknown number is about no stage.
          cases message with
          | statusCount item count =>
              have hunknown := Stage.ofId?_eq_none_iff.mp habout
              exact ⟨.ignored, hmessage, Or.inr ⟨item, rfl, hunknown⟩⟩
          | bestHeight height => exact absurd rfl (hmessage height)
          | _ => cases habout

theorem disposition_eq_iff (s : State) (message : Message) (answer : Disposition) :
    s.disposition message = answer ↔ s.Warrants message answer := by
  constructor
  · rintro rfl
    obtain ⟨answer, hwarrants⟩ := s.exists_warrants message
    rwa [disposition_eq_of_warrants hwarrants]
  · exact disposition_eq_of_warrants

/-! The effect of a disposition -/

theorem ask_stage (s : State) (peers : List Peer) : (s.ask peers).state.stage = s.stage := by
  unfold ask ask?
  cases peers.find? (· ∉ s.tried) <;> rfl

theorem enter_stage (s : State) (now : Int) (peers : List Peer) (next : Stage) :
    (s.enter now peers next).state.stage = next := by
  simp only [enter]
  split
  · rfl
  · exact ask_stage _ peers

theorem advance_stage {next : Stage} (hnext : s.stage.next? = some next) (now : Int)
    (peers : List Peer) : (s.advance now peers).state.stage = next := by
  rw [advance, hnext]
  exact s.enter_stage now peers next

/-- Nothing counts as progress once the sync has ended. -/
theorem stage_ne_finished_of_progress (hprogress : s.disposition message = .progress) :
    s.stage ≠ .finished := by
  obtain ⟨hrunning, -⟩ := (s.disposition_eq_iff message .progress).mp hprogress
  exact (s.stage.terminal_eq_false_iff.mp hrunning).2

theorem effect_receive (cfg : Settings) (s : State) (now : Int) (peers : List Peer)
    (sender : Peer) (message : Message) :
    s.Effect cfg now peers sender message (s.disposition message)
      (s.receive now peers sender message) := by
  cases hdisposition : s.disposition message with
  | recorded =>
      obtain ⟨height, rfl⟩ := (s.disposition_eq_iff message .recorded).mp hdisposition
      refine ⟨height, s.heights.record sender height, rfl, rfl, ?_, ?_⟩
      · exact Heights.height?_record_self s.heights sender height
      · intro other hother
        exact Heights.height?_record_of_ne hother s.heights height
  | completed =>
      have hreceive : s.receive now peers sender message = s.advance now peers := by
        simp [receive, hdisposition]
      obtain ⟨hrunning, -⟩ := (s.disposition_eq_iff message .completed).mp hdisposition
      obtain ⟨next, hnext, hreply⟩ := advanceReply_of_running hrunning
      refine ⟨hreceive, next, hnext, hreply, ?_⟩
      rw [hreceive, advance_stage hnext]
  | progress =>
      have hbump : s.bump now = { s with bumpedAt := now } :=
        if_neg (stage_ne_finished_of_progress hdisposition)
      simp [Effect, receive, hdisposition, hbump, quiet]
  | stale | ignored => simp [Effect, receive, hdisposition, quiet]

end State

/-- A message is answered with the one disposition that it warrants, and does what that
disposition says.  In particular a message that completes the stage does what an advance
would do, and the stage never refuses it. -/
theorem effect_of_each_message (cfg : Settings) (s : State) (now : Int) (peers : List Peer)
    (sender : Peer) (message : Message) :
    let op : Operation := .receive sender message
    ∃ answer, s.reply cfg now op = .disposed answer ∧
      (∀ other, answer = other ↔ s.Warrants message other) ∧
      s.Effect cfg now peers sender message answer (s.outcome cfg ⟨now, peers, op⟩) := by
  intro op
  refine ⟨s.disposition message, rfl, ?_, ?_⟩
  · exact s.disposition_eq_iff message
  · exact s.effect_receive cfg now peers sender message

end QuorumNode.Sync
