/-
How far messages alone carry a sync.  Of all that peers say, only a status count with the
number of the present stage completes that stage.  So a sync looks through the numbers for
those of the stages ahead, in their order, and finds as many as there are to be found.
-/
import Mathlib.Data.List.Basic
import Mathlib.Order.Bounds.Defs
import QuorumNode.Proofs.Sync.Silence

namespace QuorumNode.Sync

/-! The longest beginning of a list that another list contains in order -/

/-- So many entries of `wanted`, from the first on, come in this order in `heard`, and no
more of them do. -/
def Found (wanted heard : List Int) (k : Nat) : Prop :=
  IsGreatest {j | j ≤ wanted.length ∧ (wanted.take j).Sublist heard} k

theorem found_nil_right (wanted : List Int) : Found wanted [] 0 := by
  constructor
  · exact ⟨Nat.zero_le _, List.nil_sublist []⟩
  · rintro j ⟨hlength, hsublist⟩
    have hnone : wanted.take j = [] := List.sublist_nil.mp hsublist
    have hcount : (wanted.take j).length = j := List.length_take_of_le hlength
    rw [hnone] at hcount
    exact Nat.le_of_eq hcount.symm

theorem Found.cons_self {wanted heard : List Int} {k : Nat} (hfound : Found wanted heard k)
    (item : Int) : Found (item :: wanted) (item :: heard) (k + 1) := by
  obtain ⟨⟨hlength, hsublist⟩, hgreatest⟩ := hfound
  constructor
  · exact ⟨Nat.succ_le_succ hlength, hsublist.cons_cons item⟩
  · rintro (_ | j) ⟨hj, hlonger⟩
    · exact Nat.zero_le _
    · have hshorter : (wanted.take j).Sublist heard := List.cons_sublist_cons.mp hlonger
      exact Nat.succ_le_succ (hgreatest ⟨Nat.le_of_succ_le_succ hj, hshorter⟩)

theorem Found.cons_of_ne {wanted heard : List Int} {k : Nat} {item : Int}
    (hfound : Found wanted heard k) (hother : wanted.head? ≠ some item) :
    Found wanted (item :: heard) k := by
  obtain ⟨⟨hlength, hsublist⟩, hgreatest⟩ := hfound
  constructor
  · exact ⟨hlength, hsublist.cons item⟩
  · rintro j ⟨hj, hlonger⟩
    refine hgreatest ⟨hj, ?_⟩
    cases wanted with
    | nil =>
        rw [List.take_nil]
        exact List.nil_sublist heard
    | cons first rest =>
        have hfirst : first ≠ item := fun hsame => hother (congrArg some hsame)
        cases j with
        | zero => exact List.nil_sublist heard
        | succ j => exact List.Sublist.of_cons_of_ne hfirst hlonger

/-- All that is wanted is found if and only if it comes in its order. -/
theorem Found.eq_length_iff {wanted heard : List Int} {k : Nat} (hfound : Found wanted heard k) :
    k = wanted.length ↔ wanted.Sublist heard := by
  obtain ⟨⟨hlength, hsublist⟩, hgreatest⟩ := hfound
  constructor
  · intro hall
    rwa [hall, List.take_length] at hsublist
  · intro hwhole
    refine Nat.le_antisymm hlength (hgreatest ⟨Nat.le_refl _, ?_⟩)
    rwa [List.take_length]

namespace Stage

/-- The stages that are still to be completed, the present one first. -/
def ahead (stage : Stage) : List Stage :=
  progression.dropLast.dropWhile (· ≠ stage)

theorem ahead_of_next? {stage next : Stage} (hnext : stage.next? = some next) :
    stage.ahead = stage :: next.ahead := by
  cases stage <;> cases hnext <;> rfl

theorem head?_ahead (stage : Stage) :
    stage.ahead.head? = if stage.terminal then none else some stage := by
  cases stage <;> rfl

theorem index?_of_next? {stage next : Stage} (hnext : stage.next? = some next) :
    next.index? = stage.index?.map (· + 1) := by
  cases stage <;> cases hnext <;> rfl

/-- A sync is finished once it has gone on as often as there are stages ahead. -/
theorem eq_finished_iff {before after : Stage} {k : Nat} (hbefore : before ≠ failed)
    (hafter : after.index? = before.index?.map (· + k)) :
    after = finished ↔ k = before.ahead.length := by
  obtain ⟨i, hindex, hlength⟩ : ∃ i, before.index? = some i ∧ i + before.ahead.length = 4 := by
    cases before with
    | failed => exact absurd rfl hbefore
    | _ => exact ⟨_, rfl, rfl⟩
  rw [hindex, Option.map_some] at hafter
  have hfinished : after = finished ↔ after.index? = some 4 := by
    cases after <;> decide
  rw [hfinished, hafter, Option.some.injEq]
  omega

end Stage

/-- The number of the stage that a call declares to be served. -/
def Call.item? (call : Call) : Option Int :=
  match call.op with
  | .receive _ message => message.item?
  | _ => none

namespace State

variable {cfg : Settings} {s : State} {call : Call}

theorem after_stage_of_message (cfg : Settings) (s : State) (now : Int) (peers : List Peer)
    (sender : Peer) (message : Message) :
    (s.after cfg ⟨now, peers, .receive sender message⟩).stage =
      if s.disposition message = .completed then s.stage.next?.getD s.stage else s.stage := by
  rw [after_stage]
  by_cases hcompleted : s.disposition message = .completed
  · rw [if_pos hcompleted]
    simp only [move, hcompleted, forward]
    cases s.stage.next? <;> rfl
  · rw [if_neg hcompleted]
    cases hdisposition : s.disposition message with
    | completed => exact absurd hdisposition hcompleted
    | _ => simp only [move, hdisposition, Move.stage]

/-- A message either is the number of the present stage and completes it, or it is not the
first number that is waited for and leaves the stage as it is. -/
theorem completion_cases (cfg : Settings) (s : State)
    (hmessage : ∃ sender message, call.op = .receive sender message) :
    (s.reply cfg call.now call.op = .disposed .completed ∧ call.item? = some s.stage.id ∧
        s.stage.next? = some (s.after cfg call).stage) ∨
      (s.reply cfg call.now call.op ≠ .disposed .completed ∧
        (∀ item, call.item? = some item → (s.stage.ahead.map Stage.id).head? ≠ some item) ∧
        (s.after cfg call).stage = s.stage) := by
  obtain ⟨sender, message, hop⟩ := hmessage
  obtain ⟨now, peers, op⟩ := call
  subst hop
  have hiff := s.disposition_eq_iff message .completed
  rw [after_stage_of_message]
  by_cases hcompleted : s.disposition message = .completed
  · obtain ⟨hrunning, hitem⟩ := hiff.mp hcompleted
    obtain ⟨next, hnext⟩ := Stage.exists_next? hrunning
    rw [if_pos hcompleted, hnext]
    exact Or.inl ⟨congrArg Reply.disposed hcompleted, hitem, rfl⟩
  · rw [if_neg hcompleted]
    refine Or.inr ⟨?_, ?_, rfl⟩
    · intro hreply
      exact hcompleted (Reply.disposed.inj hreply)
    · intro item hitem hfirst
      rw [List.head?_map, Stage.head?_ahead] at hfirst
      cases hterminal : s.stage.terminal with
      | true =>
          rw [hterminal] at hfirst
          cases hfirst
      | false =>
          rw [hterminal] at hfirst
          exact hcompleted (hiff.mpr ⟨hterminal, hitem.trans hfirst.symm⟩)

/-- How many of the calls are answered with the completion of a stage. -/
def completions (cfg : Settings) (s : State) (calls : List Call) : Nat :=
  (s.trace cfg calls).countP fun x => x.reply cfg = .disposed .completed

theorem completions_cons (rest : List Call) :
    s.completions cfg (call :: rest) = (s.after cfg call).completions cfg rest +
      if s.reply cfg call.now call.op = .disposed .completed then 1 else 0 := by
  rw [completions, trace_cons, List.countP_cons]
  simp only [decide_eq_true_eq]
  rfl

/-- As many stages are completed as are found, and each takes the sync one stage on. -/
theorem found_completions (cfg : Settings) (s : State) (calls : List Call)
    (hmessages : ∀ call ∈ calls, ∃ sender message, call.op = .receive sender message) :
    Found (s.stage.ahead.map Stage.id) (calls.filterMap Call.item?) (s.completions cfg calls) ∧
      (s.run cfg calls).stage.index? =
        s.stage.index?.map (· + s.completions cfg calls) := by
  induction calls generalizing s with
  | nil => exact ⟨found_nil_right _, Option.map_id'.symm⟩
  | cons call rest ih =>
      obtain ⟨hmessage, hrest⟩ := List.forall_mem_cons.mp hmessages
      obtain ⟨hfound, hindex⟩ := ih (s.after cfg call) hrest
      rw [run_cons, hindex, completions_cons]
      rcases completion_cases cfg s hmessage with
        ⟨hreply, hitem, hnext⟩ | ⟨hreply, hother, hsame⟩
      · rw [if_pos hreply, Stage.ahead_of_next? hnext, Stage.index?_of_next? hnext,
          List.filterMap_cons_some hitem]
        refine ⟨hfound.cons_self _, ?_⟩
        rw [Option.map_map]
        congr 1
        funext i
        exact Nat.add_right_comm i 1 _
      · rw [hsame] at hfound ⊢
        rw [if_neg hreply]
        refine ⟨?_, rfl⟩
        cases hitem : call.item? with
        | none =>
            rw [List.filterMap_cons_none hitem]
            exact hfound
        | some item =>
            rw [List.filterMap_cons_some hitem]
            exact hfound.cons_of_ne (hother item hitem)

end State

/-- Messages carry a sync through as many of the stages ahead as have their numbers among
those that come in, in the order of the stages; as many messages are answered with a
completion, and the sync is finished if and only if all the numbers come in their order.
A message with any other number, or with none, leaves the stage as it is. -/
theorem completion_of_messages (cfg : Settings) (s : State) (calls : List Call)
    (hmessages : ∀ call ∈ calls, ∃ sender message, call.op = .receive sender message)
    (hunfailed : s.stage ≠ .failed) :
    let wanted := s.stage.ahead.map Stage.id
    let heard := calls.filterMap Call.item?
    let t := s.run cfg calls
    (∃ k, IsGreatest {j | j ≤ wanted.length ∧ (wanted.take j).Sublist heard} k ∧
      t.stage.index? = s.stage.index?.map (· + k) ∧
      (s.trace cfg calls).countP (fun x => x.reply cfg = .disposed .completed) = k) ∧
    (t.stage = .finished ↔ wanted.Sublist heard) ∧
    ∀ x ∈ s.trace cfg calls, (x.after cfg).stage ≠ x.before.stage →
      x.call.item? = some x.before.stage.id ∧
        x.before.stage.next? = some (x.after cfg).stage := by
  intro wanted heard t
  obtain ⟨hfound, hindex⟩ := State.found_completions cfg s calls hmessages
  refine ⟨⟨_, hfound, hindex, rfl⟩, ?_, ?_⟩
  · rw [Stage.eq_finished_iff hunfailed hindex, ← hfound.eq_length_iff, List.length_map]
  · intro x hx hchanged
    have hmessage := hmessages x.call (State.call_mem_of_mem_trace hx)
    rcases State.completion_cases cfg x.before hmessage with
      ⟨-, hitem, hnext⟩ | ⟨-, -, hsame⟩
    · exact ⟨hitem, hnext⟩
    · exact absurd hsame hchanged

/-- The numbers of the first two stages are found, that of the third comes too early. -/
theorem completion_of_messages_out_of_order :
    let calls : List Call := [4, 1, 10, 4, 4, 999, 11].map fun item =>
      ⟨0, ["p"], .receive "q" (.statusCount item 0)⟩
    let s := State.start 0
    (∀ call ∈ calls, ∃ sender message, call.op = .receive sender message) ∧
      s.stage ≠ .failed ∧
      IsGreatest {j | j ≤ (s.stage.ahead.map Stage.id).length ∧
        ((s.stage.ahead.map Stage.id).take j).Sublist (calls.filterMap Call.item?)} 2 ∧
      (s.run {} calls).stage.index? = some 2 ∧ (s.run {} calls).stage ≠ .finished := by
  intro calls s
  have hmessages : ∀ call ∈ calls, ∃ sender message, call.op = .receive sender message := by
    intro call hcall
    obtain ⟨item, -, rfl⟩ := List.mem_map.mp hcall
    exact ⟨_, _, rfl⟩
  have hunfailed : s.stage ≠ .failed := by decide
  obtain ⟨⟨k, hgreatest, hindex, hcount⟩, hfinished, -⟩ :=
    completion_of_messages {} s calls hmessages hunfailed
  have htwo : k = 2 := by
    rw [← hcount]
    decide
  rw [htwo] at hgreatest hindex
  exact ⟨hmessages, hunfailed, hgreatest, hindex, by rw [ne_eq, hfinished]; decide⟩

end QuorumNode.Sync
