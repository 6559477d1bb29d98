/-
A sync that is ticked regularly is never taken for one that was suspended.  A tick that
comes too early is no reference for the next one, so the time on record may lie before the
last tick, but by no more than the interval of the ticks.
-/
import Mathlib.Data.List.Chain
import QuorumNode.Proofs.Sync.Progression

namespace QuorumNode.Sync

/-- When the ticks among the calls come. -/
def tickTimes (calls : List Call) : List Int :=
  (calls.filter fun call => call.op.ticks).map Call.now

/-- Counted from `last`, each tick comes soon enough after the one before it, whether or
not that one was too early to do anything. -/
def Punctual (cfg : Settings) (last : Int) (calls : List Call) : Prop :=
  (last :: tickTimes calls).IsChain fun earlier later =>
    later - earlier ≤ cfg.suspendRestart - cfg.tick

variable {cfg : Settings} {last : Int} {call : Call} {rest : List Call}

theorem tickTimes_cons_of_ticks (hticks : call.op.ticks = true) :
    tickTimes (call :: rest) = call.now :: tickTimes rest := by
  simp [tickTimes, hticks]

theorem tickTimes_cons_of_not_ticks (hticks : call.op.ticks ≠ true) :
    tickTimes (call :: rest) = tickTimes rest := by
  simp [tickTimes, hticks]

theorem punctual_cons_of_ticks (hticks : call.op.ticks = true) :
    Punctual cfg last (call :: rest) ↔
      call.now - last ≤ cfg.suspendRestart - cfg.tick ∧ Punctual cfg call.now rest := by
  rw [Punctual, tickTimes_cons_of_ticks hticks, List.isChain_cons_cons]
  rfl

theorem punctual_cons_of_not_ticks (hticks : call.op.ticks ≠ true) :
    Punctual cfg last (call :: rest) ↔ Punctual cfg last rest := by
  rw [Punctual, tickTimes_cons_of_not_ticks hticks]
  rfl

namespace Step

/-- The time since the last tick on record is no suspension. -/
def Awake (cfg : Settings) (x : Step) : Prop :=
  x.call.now - x.before.tickedAt ≤ cfg.suspendRestart

end Step

namespace State

variable {s : State} {calls : List Call}

/-- After a tick, the time on record is not far behind it. -/
theorem sub_tickedAt_le_of_ticks (s : State) (htick : 0 ≤ cfg.tick)
    (hticks : call.op.ticks = true) : call.now - (s.after cfg call).tickedAt ≤ cfg.tick := by
  rw [after_tickedAt]
  by_cases hearly : call.now - s.tickedAt < cfg.tick
  · have hbetween : s.notedTick cfg call = call.now ∨ s.notedTick cfg call = s.tickedAt :=
      ite_eq_or_eq ..
    omega
  · have hnoted : s.notedTick cfg call = call.now :=
      if_pos ⟨hticks, Or.inr (Int.not_lt.mp hearly)⟩
    omega

theorem after_tickedAt_of_not_ticks (hticks : call.op.ticks ≠ true) :
    (s.after cfg call).tickedAt = s.tickedAt := by
  rw [after_tickedAt]
  exact if_neg fun hdue => hticks hdue.1

theorem awake_of_punctual (htick : 0 ≤ cfg.tick) (hlast : last - s.tickedAt ≤ cfg.tick)
    (hpunctual : Punctual cfg last calls) :
    ∀ x ∈ s.trace cfg calls, x.call.op.ticks = true → x.Awake cfg := by
  induction calls generalizing s last with
  | nil => simp
  | cons call rest ih =>
      rw [trace_cons, List.forall_mem_cons]
      by_cases hticks : call.op.ticks = true
      · obtain ⟨hgap, hrest⟩ := (punctual_cons_of_ticks hticks).mp hpunctual
        constructor
        · intro _
          change call.now - s.tickedAt ≤ cfg.suspendRestart
          omega
        · exact ih (sub_tickedAt_le_of_ticks s htick hticks) hrest
      · constructor
        · exact fun htrue => absurd htrue hticks
        · have hsame : (s.after cfg call).tickedAt = s.tickedAt :=
            after_tickedAt_of_not_ticks hticks
          rw [← hsame] at hlast
          exact ih hlast ((punctual_cons_of_not_ticks hticks).mp hpunctual)

theorem restarts_eq_false_of_awake (hticks : call.op.ticks = true)
    (hawake : Step.Awake cfg ⟨s, call⟩) : s.restarts cfg call = false := by
  obtain ⟨now, peers, op⟩ := call
  have hintime : ¬cfg.suspendRestart < now - s.tickedAt := Int.not_lt.mpr hawake
  cases op with
  | tick | maintain => simp [restarts, hintime]
  | _ => cases hticks

theorem after_stage_of_finished (hfinished : s.stage = .finished)
    (hawake : call.op.ticks = true → Step.Awake cfg ⟨s, call⟩)
    (hunforced : ∀ notify, call.op ≠ .reset true notify) :
    (s.after cfg call).stage = .finished := by
  by_contra hleft
  have hrestarts : s.restarts cfg call = true := by
    apply restarts_of_terminal
    · rw [hfinished]
      rfl
    · rwa [hfinished]
  rcases forced_of_restarts_of_finished hfinished hrestarts with ⟨notify, hforce⟩ | ⟨hticks, -⟩
  · exact hunforced notify hforce
  · rw [restarts_eq_false_of_awake hticks (hawake hticks)] at hrestarts
    cases hrestarts

/-- A sync that is finished and never taken for suspended waits for force. -/
theorem run_stage_of_finished (hfinished : s.stage = .finished)
    (hawake : ∀ x ∈ s.trace cfg calls, x.call.op.ticks = true → x.Awake cfg)
    (hunforced : ∀ call ∈ calls, ∀ notify, call.op ≠ .reset true notify) :
    (s.run cfg calls).stage = .finished := by
  induction calls generalizing s with
  | nil => exact hfinished
  | cons call rest ih =>
      obtain ⟨hfirst, hlater⟩ := List.forall_mem_cons.mp hawake
      obtain ⟨hcall, hrest⟩ := List.forall_mem_cons.mp hunforced
      exact ih (after_stage_of_finished hfinished hfirst hcall) hlater hrest

end State

open State in
/-- In every run whose ticks are never further apart than a suspension less one interval,
no tick finds that the sync was suspended.  So once finished it stays finished until a
reset by force.  Nothing else is asked of the clock, which may even run back. -/
theorem awake_of_regular_ticks (cfg : Settings) (began : Int) (calls : List Call)
    (htick : 0 ≤ cfg.tick)
    (hregular : (began :: tickTimes calls).IsChain fun earlier later =>
      later - earlier ≤ cfg.suspendRestart - cfg.tick) :
    (∀ x ∈ (start began).trace cfg calls, x.call.op.ticks = true →
      x.call.now - x.before.tickedAt ≤ cfg.suspendRestart ∧ x.restarts cfg = false) ∧
    ∀ earlier rest, calls = earlier ++ rest →
      ((start began).run cfg earlier).stage = .finished →
      (∀ call ∈ rest, ∀ notify, call.op ≠ .reset true notify) →
      ((start began).run cfg calls).stage = .finished := by
  have hbegan : began - (start began).tickedAt ≤ cfg.tick := by
    rw [show (start began).tickedAt = began from rfl, Int.sub_self]
    exact htick
  have hawake := awake_of_punctual htick hbegan hregular
  constructor
  · intro x hx hticks
    have hintime := hawake x hx hticks
    exact ⟨hintime, restarts_eq_false_of_awake hticks hintime⟩
  · intro earlier rest hcalls hfinished hunforced
    rw [hcalls, trace_append, List.forall_mem_append] at hawake
    rw [hcalls, run_append]
    exact run_stage_of_finished hfinished hawake.2 hunforced

/-- The first tick comes too early, so that the second one is a whole suspension behind
the last tick on record. -/
theorem awake_of_regular_ticks_early_tick :
    let finish : List Call := List.replicate 4 ⟨1, ["p"], .advance⟩
    let ticks : List Call :=
      [⟨5, ["p"], .tick⟩, ⟨9, [], .reset false true⟩, ⟨3599, [], .maintain⟩]
    let cfg : Settings := {}
    0 ≤ cfg.tick ∧
      ((0 :: tickTimes (finish ++ ticks)).IsChain fun earlier later =>
        later - earlier ≤ cfg.suspendRestart - cfg.tick) ∧
      ((State.start 0).run cfg (finish ++ ticks)).stage = .finished := by
  intro finish ticks cfg
  have htick : 0 ≤ cfg.tick := by decide
  have hregular : (0 :: tickTimes (finish ++ ticks)).IsChain fun earlier later =>
      later - earlier ≤ cfg.suspendRestart - cfg.tick := by
    decide
  obtain ⟨-, hstays⟩ := awake_of_regular_ticks cfg 0 (finish ++ ticks) htick hregular
  exact ⟨htick, hregular, hstays finish ticks rfl (by decide) (by decide)⟩

end QuorumNode.Sync
