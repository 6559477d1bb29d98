/-
Ticks that come before the next one is due.  A tick that does nothing is no reference for the
ticks after it, so ticking a sync more often than it asks for does not put off the ticks that
count, and nothing but their number tells a run with such ticks from the run without them.
-/
import QuorumNode.Proofs.Sync.Forgetting
import QuorumNode.Proofs.Sync.Replay

namespace QuorumNode.Sync

namespace Heights

/-- Nothing is forgotten while all are connected. -/
theorem keep_eq_self {heights : Heights} {peers : List Peer}
    (hconnected : ∀ entry ∈ heights, entry.1 ∈ peers) : heights.keep peers = heights := by
  rw [keep, List.filter_eq_self]
  intro entry hentry
  exact decide_eq_true (hconnected entry hentry)

end Heights

namespace State

/-- A tick that comes neither after a suspension nor late enough to be due, while every peer
with a height on record is connected. -/
structure Early (cfg : Settings) (s : State) (call : Call) : Prop where
  tick : call.op = .tick
  undue : call.now - s.tickedAt < cfg.tick
  awake : call.now - s.tickedAt ≤ cfg.suspendRestart
  connected : ∀ entry ∈ s.heights, entry.1 ∈ call.peers

variable {cfg : Settings} {s : State} {call : Call}

/-- An early tick is counted, and that is all. -/
theorem outcome_of_early (hearly : s.Early cfg call) :
    s.outcome cfg call = (s.addTicks 1).quiet := by
  obtain ⟨now, peers, op⟩ := call
  obtain ⟨htick, hundue, hawake, hconnected⟩ := hearly
  have hheights : s.heights.keep peers = s.heights := Heights.keep_eq_self hconnected
  cases htick
  change s.tick cfg now peers = (s.addTicks 1).quiet
  rw [tick, if_neg (Int.not_lt.mpr hawake), if_pos hundue, hheights]
  rfl

theorem after_of_early (hearly : s.Early cfg call) : s.after cfg call = s.addTicks 1 := by
  rw [after, outcome_of_early hearly]
  rfl

theorem addTicks_addTicks (s : State) (first more : Nat) :
    (s.addTicks first).addTicks more = s.addTicks (first + more) := by
  simp only [addTicks, Nat.add_assoc]

/-- What the steps of a run send out does not tell how many ticks were counted before it. -/
theorem flatMap_trace_addTicks {α : Type} (part : Outcome → List α)
    (hcount : ∀ n outcome, part (outcome.addTicks n) = part outcome) (n : Nat) (s : State)
    (calls : List Call) :
    (((s.addTicks n).trace cfg calls).flatMap fun x => part (x.outcome cfg)) =
      (s.trace cfg calls).flatMap fun x => part (x.outcome cfg) := by
  induction calls generalizing s with
  | nil => rfl
  | cons call rest ih =>
      rw [trace_cons, trace_cons, List.flatMap_cons, List.flatMap_cons, after_addTicks, ih,
        Step.outcome, Step.outcome, outcome_addTicks, hcount]

end State

/-- `padded` is the run `calls` with early ticks put in, anywhere and any number of them. -/
inductive Padded (cfg : Settings) (began : Int) : List Call → List Call → Prop
  | nil : Padded cfg began [] []
  | call {calls padded : List Call} (call : Call) (hpadded : Padded cfg began calls padded) :
      Padded cfg began (calls ++ [call]) (padded ++ [call])
  | tick {calls padded : List Call} {call : Call} (hpadded : Padded cfg began calls padded)
      (hearly : ((State.start began).run cfg padded).Early cfg call) :
      Padded cfg began calls (padded ++ [call])

open State in
/-- The state after a padded run is that after the run, with the early ticks counted. -/
theorem Padded.run_eq_addTicks {cfg : Settings} {began : Int} {calls padded : List Call}
    (hpadded : Padded cfg began calls padded) :
    ∃ extra, padded.length = calls.length + extra ∧
      (start began).run cfg padded = ((start began).run cfg calls).addTicks extra := by
  induction hpadded with
  | nil => exact ⟨0, rfl, rfl⟩
  | call call _ ih =>
      obtain ⟨extra, hlength, hrun⟩ := ih
      refine ⟨extra, ?_, ?_⟩
      · rw [List.length_append, List.length_append, hlength, Nat.add_right_comm]
      · rw [run_concat, run_concat, hrun, after_addTicks]
  | tick _ hearly ih =>
      obtain ⟨extra, hlength, hrun⟩ := ih
      refine ⟨extra + 1, ?_, ?_⟩
      · rw [List.length_append, hlength, List.length_singleton, Nat.add_assoc]
      · rw [run_concat, after_of_early hearly, hrun, addTicks_addTicks]

open State in
/-- What a padded run sends out, of one sort or another, is what the run sends out. -/
theorem Padded.flatMap_trace_eq {cfg : Settings} {began : Int} {calls padded : List Call}
    {α : Type} (part : Outcome → List α)
    (hcount : ∀ n outcome, part (outcome.addTicks n) = part outcome)
    (hquiet : ∀ s : State, part s.quiet = []) (hpadded : Padded cfg began calls padded) :
    (((start began).trace cfg padded).flatMap fun x => part (x.outcome cfg)) =
      ((start began).trace cfg calls).flatMap fun x => part (x.outcome cfg) := by
  induction hpadded with
  | nil => rfl
  | call call hbefore ih =>
      obtain ⟨extra, -, hrun⟩ := hbefore.run_eq_addTicks
      rw [trace_append, trace_append, List.flatMap_append, List.flatMap_append, ih, hrun,
        flatMap_trace_addTicks part hcount]
  | tick _ hearly ih =>
      rw [trace_concat, List.flatMap_append, ih, List.flatMap_singleton, Step.outcome,
        outcome_of_early hearly, hquiet, List.append_nil]

open State in
/-- Early ticks go unnoticed.  They send nothing out, and at every point of a run whatever
comes next is answered, told and asked for as it would be without them; the states differ in
the count of the ticks alone, by the number of those that were put in. -/
theorem early_ticks_of_each_run (cfg : Settings) (began : Int) (calls padded : List Call)
    (hpadded : Padded cfg began calls padded) :
    let s := (start began).run cfg calls
    let t := (start began).run cfg padded
    (t = { s with ticks := t.ticks } ∧ t.ticks + calls.length = s.ticks + padded.length) ∧
    ((start began).events cfg padded = (start began).events cfg calls ∧
      (start began).requests cfg padded = (start began).requests cfg calls) ∧
    (∀ now peers op,
      t.reply cfg now op = s.reply cfg now op ∧
      (t.outcome cfg ⟨now, peers, op⟩).events = (s.outcome cfg ⟨now, peers, op⟩).events ∧
      (t.outcome cfg ⟨now, peers, op⟩).requests = (s.outcome cfg ⟨now, peers, op⟩).requests) ∧
    ∀ call, t.Early cfg call →
      (t.outcome cfg call).events = [] ∧ (t.outcome cfg call).requests = [] := by
  intro s t
  obtain ⟨extra, hlength, hrun⟩ := hpadded.run_eq_addTicks
  have ht : t = s.addTicks extra := hrun
  refine ⟨⟨?_, ?_⟩, ⟨?_, ?_⟩, ?_, ?_⟩
  · rw [ht]
    rfl
  · rw [ht, hlength]
    change s.ticks + extra + calls.length = s.ticks + (calls.length + extra)
    omega
  · exact hpadded.flatMap_trace_eq Outcome.events (fun _ _ => rfl) fun _ => rfl
  · exact hpadded.flatMap_trace_eq Outcome.requests (fun _ _ => rfl) fun _ => rfl
  · intro now peers op
    rw [ht, reply_addTicks, outcome_addTicks]
    exact ⟨rfl, rfl, rfl⟩
  · intro call hearly
    rw [outcome_of_early hearly]
    exact ⟨rfl, rfl⟩

open State in
/-- Two ticks that come too early, the second one second before a tick is due, do not keep
that one from asking the peer whose height is on record. -/
theorem early_ticks_of_each_run_still_due :
    let height : Call := ⟨1, [], .receive "p" (.bestHeight 5)⟩
    let ticks : List Call := [⟨3, ["p"], .tick⟩, ⟨5, ["q", "p"], .tick⟩]
    let due : Call := ⟨6, ["p"], .tick⟩
    Padded {} 0 [height] (height :: ticks) ∧
      (((start 0).run {} (height :: ticks)).outcome {} due).requests =
        (((start 0).run {} [height]).outcome {} due).requests ∧
      (((start 0).run {} [height]).outcome {} due).requests = [.stageData .blockchain "p"] ∧
      ((start 0).run {} (height :: ticks)).ticks = ((start 0).run {} [height]).ticks + 2 := by
  intro height ticks due
  have hfirst : ((start 0).run {} [height]).Early {} ⟨3, ["p"], .tick⟩ :=
    ⟨rfl, by decide, by decide, by decide⟩
  have hsecond : ((start 0).run {} [height, ⟨3, ["p"], .tick⟩]).Early {} ⟨5, ["q", "p"], .tick⟩ :=
    ⟨rfl, by decide, by decide, by decide⟩
  have hpadded : Padded {} 0 [height] (height :: ticks) :=
    ((Padded.nil.call height).tick hfirst).tick hsecond
  obtain ⟨⟨-, hticks⟩, -, hnext, -⟩ := early_ticks_of_each_run {} 0 _ _ hpadded
  exact ⟨hpadded, (hnext 6 ["p"] .tick).2.2, by decide, Nat.add_right_cancel hticks⟩

end QuorumNode.Sync
