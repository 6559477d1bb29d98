/-
What a forced reset leaves of the sync before it: the chain that was seen, the time of the
last tick, and how many ticks there were.  That number is only ever counted up, so two syncs
that agree on the rest of it can no longer be told apart.
-/
import QuorumNode.Proofs.Sync.Move

namespace QuorumNode.Sync

/-! The count of the ticks has no say in anything -/

/-- The same state with `n` more ticks counted. -/
def State.addTicks (n : Nat) (s : State) : State := { s with ticks := s.ticks + n }

/-- The same outcome with `n` more ticks counted. -/
def Outcome.addTicks (n : Nat) (outcome : Outcome) : Outcome :=
  { outcome with state := outcome.state.addTicks n }

namespace State

variable (cfg : Settings) (n : Nat) (s : State) (call : Call)

theorem note_addTicks : (s.addTicks n).note cfg call = (s.note cfg call).addTicks n := by
  have hcounted : s.ticks + n + 1 = s.ticks + 1 + n := Nat.add_right_comm s.ticks n 1
  obtain ⟨now, peers, op⟩ := call
  cases op with
  | tick => exact congrArg (fun ticks => { s.note cfg ⟨now, peers, .tick⟩ with ticks }) hcounted
  | maintain =>
      exact congrArg (fun ticks => { s.note cfg ⟨now, peers, .maintain⟩ with ticks }) hcounted
  | _ => rfl

theorem move_addTicks : (s.addTicks n).move cfg call = s.move cfg call := by
  obtain ⟨now, peers, op⟩ := call
  cases op <;> rfl

theorem act_addTicks (now : Int) (move : Move) :
    (s.addTicks n).act now move = (s.act now move).addTicks n := by
  cases move <;> rfl

theorem outcome_addTicks :
    (s.addTicks n).outcome cfg call = (s.outcome cfg call).addTicks n := by
  rw [outcome_eq_act, outcome_eq_act, note_addTicks, move_addTicks, act_addTicks]

theorem after_addTicks : (s.addTicks n).after cfg call = (s.after cfg call).addTicks n := by
  rw [after, outcome_addTicks]
  rfl

theorem run_addTicks (calls : List Call) :
    (s.addTicks n).run cfg calls = (s.run cfg calls).addTicks n := by
  have hmap := run_map (g := id) (after_addTicks cfg n) s calls
  rwa [List.map_id] at hmap

theorem reply_addTicks (now : Int) (op : Operation) :
    (s.addTicks n).reply cfg now op = s.reply cfg now op := by
  cases op <;> rfl

/-! What is left after a forced reset -/

/-- A sync that has just begun, save that it knows the chain that `s` has seen and when `s`
was last ticked. -/
def refreshed (now : Int) (s : State) : State :=
  { start now with bestHeader := s.bestHeader, tip := s.tip, tickedAt := s.tickedAt }

theorem reset_state (now : Int) (notify : Bool) :
    (s.reset now true notify).state = (s.refreshed now).addTicks s.ticks := by
  rw [addTicks, refreshed, start, Nat.zero_add]
  rfl

end State

open State in
/-- Whatever two syncs went through: if they know the same tip and best header and were last
ticked at the same time, then after a forced reset they answer, tell and ask the same in
every run, and their states differ in the count of the ticks alone.  A second reset at the
same time changes nothing more. -/
theorem session_forgotten_by_reset (cfg : Settings) (s t : State) (now : Int) (notify : Bool)
    (htip : s.tip = t.tip) (hbest : s.bestHeader = t.bestHeader)
    (hticked : s.tickedAt = t.tickedAt) :
    let s' := s.reset now true notify
    let t' := t.reset now true notify
    (s.reply cfg now (.reset true notify) = t.reply cfg now (.reset true notify) ∧
      s'.events = t'.events ∧ s'.requests = t'.requests) ∧
    (∀ calls,
      let u := s'.state.run cfg calls
      let v := t'.state.run cfg calls
      u = { v with ticks := u.ticks } ∧
      ∀ now peers op,
        u.reply cfg now op = v.reply cfg now op ∧
        (u.outcome cfg ⟨now, peers, op⟩).events = (v.outcome cfg ⟨now, peers, op⟩).events ∧
        (u.outcome cfg ⟨now, peers, op⟩).requests =
          (v.outcome cfg ⟨now, peers, op⟩).requests) ∧
    ∀ again, (s'.state.reset now true again).state = s'.state := by
  intro s' t'
  have hsame : s.refreshed now = t.refreshed now := by
    rw [refreshed, refreshed, htip, hbest, hticked]
  have hs : s'.state = (t.refreshed now).addTicks s.ticks := by rw [← hsame, ← reset_state]
  have ht : t'.state = (t.refreshed now).addTicks t.ticks := reset_state t now notify
  refine ⟨⟨rfl, rfl, rfl⟩, ?_, fun _ => rfl⟩
  intro calls u v
  have hu : u = ((t.refreshed now).run cfg calls).addTicks s.ticks := by
    rw [← run_addTicks, ← hs]
  have hv : v = ((t.refreshed now).run cfg calls).addTicks t.ticks := by
    rw [← run_addTicks, ← ht]
  rw [hu, hv]
  refine ⟨rfl, ?_⟩
  intro now peers op
  rw [reply_addTicks, reply_addTicks, outcome_addTicks, outcome_addTicks]
  exact ⟨rfl, rfl, rfl⟩

/-- A sync that has failed and one that is finished, both reset at the same time, ask the
same peer at the next tick although one of them had asked it before. -/
theorem session_forgotten_by_reset_failed_finished :
    let tip : Operation := .blockTip ⟨4, ⟨3⟩⟩ true
    let header : Operation := .headerTip ⟨5, ⟨7⟩⟩ false
    let s := (State.start 0).run {}
      [⟨1, [], tip⟩, ⟨1, [], header⟩, ⟨2, ["p"], .receive "p" (.bestHeight 9)⟩,
        ⟨10, ["p"], .tick⟩, ⟨11, ["p"], .tick⟩, ⟨50, ["p"], .tick⟩]
    let t := (State.start 7).run {}
      ([⟨8, [], header⟩, ⟨9, [], tip⟩, ⟨9, [], .tick⟩] ++
        List.replicate 4 ⟨11, ["q"], .advance⟩ ++ [⟨50, ["q"], .maintain⟩])
    let call : Call := ⟨70, ["p", "q"], .tick⟩
    (s.stage = .failed ∧ t.stage = .finished ∧ s.ticks ≠ t.ticks) ∧
      (s.tip = t.tip ∧ s.bestHeader = t.bestHeader ∧ s.tickedAt = t.tickedAt) ∧
      ((s.reset 60 true true).state.outcome {} call).requests =
        ((t.reset 60 true true).state.outcome {} call).requests ∧
      ((t.reset 60 true true).state.outcome {} call).requests =
        [.stageData .blockchain "p"] := by
  intro tip header s t call
  have htip : s.tip = t.tip := by decide
  have hbest : s.bestHeader = t.bestHeader := by decide
  have hticked : s.tickedAt = t.tickedAt := by decide
  obtain ⟨-, hruns, -⟩ := session_forgotten_by_reset {} s t 60 true htip hbest hticked
  obtain ⟨-, hsteps⟩ := hruns []
  exact ⟨by decide, ⟨htip, hbest, hticked⟩, (hsteps 70 ["p", "q"] .tick).2.2, by decide⟩

end QuorumNode.Sync
