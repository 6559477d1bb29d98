/-
The events of a sync are a full account of its stages: whoever starts at the
blockchain stage and follows them in order always knows the present stage.
-/
import QuorumNode.Proofs.Sync.Decision
import QuorumNode.Proofs.Sync.Site

namespace QuorumNode.Sync

namespace Event

/-- The stage that an event leads to. -/
def stage : Event → Stage
  | reset => .blockchain
  | switched _ entered => entered
  | failed _ => .failed

/-- What an event says of the stage before it. -/
def Fits (before : Stage) : Event → Prop
  | reset => True
  | switched left entered => left = before ∧ before.next? = some entered
  | failed left => left = before ∧ before ≠ .failed ∧ before ≠ .finished

/-- The stage that a log leads to. -/
def replay (before : Stage) (log : List Event) : Stage :=
  log.foldl (fun _ event => event.stage) before

/-- Each event of the log fits the stage that the events before it lead to. -/
def Coherent (before : Stage) (log : List Event) : Prop :=
  ∀ earlier event later, log = earlier ++ event :: later →
    event.Fits (replay before earlier)

theorem replay_append (before : Stage) (first last : List Event) :
    replay before (first ++ last) = replay (replay before first) last :=
  List.foldl_append

theorem coherent_nil (before : Stage) : Coherent before [] := by
  intro earlier event later hlog
  cases earlier <;> cases hlog

theorem coherent_cons {before : Stage} {event : Event} {log : List Event} :
    Coherent before (event :: log) ↔ event.Fits before ∧ Coherent event.stage log := by
  constructor
  · intro hcoherent
    refine ⟨hcoherent [] event log rfl, ?_⟩
    intro earlier next later hlog
    exact hcoherent (event :: earlier) next later (by rw [hlog, List.cons_append])
  · rintro ⟨hfits, hlog⟩ earlier next later hsplit
    cases earlier with
    | nil =>
        cases hsplit
        exact hfits
    | cons first earlier =>
        obtain ⟨rfl, hrest⟩ := List.cons.inj hsplit
        exact hlog earlier next later hrest

theorem Coherent.append {before : Stage} {first last : List Event}
    (hfirst : Coherent before first) (hlast : Coherent (replay before first) last) :
    Coherent before (first ++ last) := by
  induction first generalizing before with
  | nil => exact hlast
  | cons event rest ih =>
      obtain ⟨hfits, hrest⟩ := coherent_cons.mp hfirst
      exact coherent_cons.mpr ⟨hfits, ih hrest hlast⟩

end Event

/-! What a step tells -/

/-- What a move tells the observers. -/
def Move.events (before : Stage) : Move → List Event
  | restart notify => if notify then [.reset] else []
  | enter next _ => [.switched before next]
  | fail => [.failed before]
  | _ => []

theorem Move.length_events_le_one (before : Stage) (move : Move) :
    (move.events before).length ≤ 1 := by
  cases move with
  | restart notify => cases notify <;> simp [events]
  | _ => simp [events]

namespace State

variable {cfg : Settings} {s : State} {call : Call}

theorem outcome_events (cfg : Settings) (s : State) (call : Call) :
    (s.outcome cfg call).events = (s.move cfg call).events s.stage := by
  rw [outcome_eq_act]
  cases s.move cfg call <;> rfl

/-- One step, told in full: an event for a change of the stage, and none
otherwise.  Only a silent reset goes untold. -/
theorem outcome_events_replay (cfg : Settings) (s : State)
    (hnotifies : call.op.notifies = true) :
    Event.replay s.stage (s.outcome cfg call).events = (s.after cfg call).stage ∧
      Event.Coherent s.stage (s.outcome cfg call).events := by
  have hallows := s.allows_move cfg call
  rw [outcome_events, after_stage]
  cases hmove : s.move cfg call with
  | rest | bump | ask | retry => exact ⟨rfl, Event.coherent_nil s.stage⟩
  | restart notify =>
      rw [hmove] at hallows
      -- A restart goes untold only if the operation asks for it.
      have htold : notify = true := by
        have hsame := (move_of_restarts hallows).symm.trans hmove
        rw [hnotifies] at hsame
        exact (Move.restart.inj hsame).symm
      rw [htold]
      exact ⟨rfl, Event.coherent_cons.mpr ⟨trivial, Event.coherent_nil _⟩⟩
  | enter next asked =>
      rw [hmove] at hallows
      exact ⟨rfl, Event.coherent_cons.mpr ⟨⟨rfl, hallows.1⟩, Event.coherent_nil _⟩⟩
  | fail =>
      rw [hmove] at hallows
      obtain ⟨⟨-, hrunning, -⟩, -⟩ := hallows
      obtain ⟨hunfailed, hunfinished⟩ := s.stage.terminal_eq_false_iff.mp hrunning
      exact ⟨rfl,
        Event.coherent_cons.mpr ⟨⟨rfl, hunfailed, hunfinished⟩, Event.coherent_nil _⟩⟩

/-- The events that the calls send out, in order. -/
def events (cfg : Settings) (s : State) (calls : List Call) : List Event :=
  (s.trace cfg calls).flatMap fun x => (x.outcome cfg).events

theorem events_cons (cfg : Settings) (s : State) (call : Call) (rest : List Call) :
    s.events cfg (call :: rest) =
      (s.outcome cfg call).events ++ (s.after cfg call).events cfg rest := rfl

theorem events_append (cfg : Settings) (s : State) (first last : List Call) :
    s.events cfg (first ++ last) =
      s.events cfg first ++ (s.run cfg first).events cfg last := by
  simp [events, trace_append]

theorem events_replay (cfg : Settings) (s : State) (calls : List Call)
    (hnotifies : ∀ call ∈ calls, call.op.notifies = true) :
    Event.replay s.stage (s.events cfg calls) = (s.run cfg calls).stage ∧
      Event.Coherent s.stage (s.events cfg calls) := by
  induction calls generalizing s with
  | nil => exact ⟨rfl, Event.coherent_nil s.stage⟩
  | cons call rest ih =>
      obtain ⟨hcall, hrest⟩ := List.forall_mem_cons.mp hnotifies
      obtain ⟨hstage, hfits⟩ := outcome_events_replay cfg s hcall
      obtain ⟨hlast, hcoherent⟩ := ih (s.after cfg call) hrest
      rw [events_cons, Event.replay_append, hstage]
      refine ⟨hlast, hfits.append ?_⟩
      rwa [hstage]

end State

/-! What an observer reads -/

namespace Feed

/-- All of `log` was published, and the feed still keeps the end of it. -/
structure Carries (log : List Event) (feed : Feed) : Prop where
  sent_eq : feed.sent = log.length
  kept_eq : feed.kept = log.drop (log.length - capacity)

theorem carries_empty : empty.Carries [] := ⟨rfl, rfl⟩

theorem Carries.publish {log : List Event} {feed : Feed} (hcarries : feed.Carries log)
    (event : Event) : (feed.publish event).Carries (log ++ [event]) := by
  have hcount : log.length - capacity + (log.length + 1 - (log.length - capacity) - capacity) =
      log.length + 1 - capacity := by omega
  have hkept : feed.kept ++ [event] = (log ++ [event]).drop (log.length - capacity) := by
    rw [hcarries.kept_eq, List.drop_append_of_le_length (Nat.sub_le _ _)]
  constructor
  · change feed.sent + 1 = _
    rw [hcarries.sent_eq, List.length_append, List.length_singleton]
  · change (feed.kept ++ [event]).drop ((feed.kept ++ [event]).length - capacity) = _
    rw [hkept, List.drop_drop, List.length_drop, List.length_append, List.length_singleton,
      hcount]

theorem Carries.foldl_publish {log : List Event} {feed : Feed} (hcarries : feed.Carries log)
    (events : List Event) : (events.foldl Feed.publish feed).Carries (log ++ events) := by
  induction events generalizing log feed with
  | nil => rwa [List.append_nil]
  | cons event rest ih =>
      have hrest := ih (hcarries.publish event)
      rwa [List.append_assoc] at hrest

/-- A reader that is at most the capacity behind misses nothing. -/
theorem Carries.since_eq {log : List Event} {feed : Feed} (hcarries : feed.Carries log)
    {next : Nat} (hnext : log.length ≤ next + capacity) : feed.since next = log.drop next := by
  have hcount : log.length - capacity +
      (next - (log.length - (log.length - (log.length - capacity)))) = next := by omega
  rw [since, oldest, hcarries.sent_eq, hcarries.kept_eq, List.drop_drop, List.length_drop, hcount]

end Feed

theorem Site.after_feed (site : Site) (happening : Happening) :
    (site.after happening).machine.feed =
      (site.machine.state.events site.machine.settings
        (site.call? happening).toList).foldl Feed.publish site.machine.feed := by
  cases happening with
  | perform now op =>
      simp only [call?, Option.toList_some, State.events_cons]
      rw [State.events, State.trace_nil, List.flatMap_nil, List.append_nil]
      rfl
  | _ => rfl

theorem Site.run_feed (site : Site) (happenings : List Happening) {log : List Event}
    (hcarries : site.machine.feed.Carries log) :
    (site.run happenings).machine.feed.Carries
      (log ++ site.machine.state.events site.machine.settings (site.calls happenings)) := by
  induction happenings generalizing site log with
  | nil => simpa [run, calls, State.events] using hcarries
  | cons happening rest ih =>
      have hafter : (site.after happening).machine.feed.Carries (log ++
          site.machine.state.events site.machine.settings (site.call? happening).toList) := by
        rw [after_feed]
        exact hcarries.foldl_publish _
      have hrest := ih (site.after happening) hafter
      rw [after_state, after_settings, List.append_assoc, ← State.events_append] at hrest
      exact hrest

/-- Every run in which no reset asks for silence is told by its events.  They lead
from the blockchain stage to the present one, each of them fits the stage it is
told in, no call tells more than one of them, and observers that keep up read
them all. -/
theorem stage_of_replay (cfg : Settings) (began : Int) (calls : List Call)
    (hnotify : ∀ call ∈ calls, ∀ force, call.op ≠ .reset force false) :
    let s := State.start began
    let log := s.events cfg calls
    Event.replay .blockchain log = (s.run cfg calls).stage ∧
    (∀ earlier event later, log = earlier ++ event :: later →
      event.Fits (Event.replay .blockchain earlier)) ∧
    (∀ x ∈ s.trace cfg calls, (x.outcome cfg).events.length ≤ 1) ∧
    ∀ peers happenings, (Site.start cfg began peers).calls happenings = calls →
      ∀ next, log.length ≤ next + Feed.capacity →
        ((Site.start cfg began peers).run happenings).machine.feed.since next =
          log.drop next := by
  intro s log
  have hnotifies : ∀ call ∈ calls, call.op.notifies = true := by
    intro call hcall
    obtain ⟨now, peers, op⟩ := call
    cases op with
    | reset force notify =>
        cases notify with
        | true => rfl
        | false => exact absurd rfl (hnotify _ hcall force)
    | _ => rfl
  obtain ⟨hstage, hcoherent⟩ := State.events_replay cfg s calls hnotifies
  refine ⟨hstage, hcoherent, ?_, ?_⟩
  · intro x _
    rw [Step.outcome, State.outcome_events]
    exact Move.length_events_le_one _ _
  · intro peers happenings hcalls next hnext
    have hcarries := Site.run_feed (Site.start cfg began peers) happenings Feed.carries_empty
    rw [List.nil_append, hcalls] at hcarries
    exact hcarries.since_eq hnext

/-- An advance, a restart and a failure, and what is left to read of them after
the first. -/
theorem stage_of_replay_restarted :
    let calls : List Call :=
      [⟨5, ["p"], .advance⟩, ⟨9, ["p"], .reset true true⟩, ⟨50, [], .maintain⟩]
    (∀ call ∈ calls, ∀ force, call.op ≠ .reset force false) ∧
      Event.replay .blockchain ((State.start 0).events {} calls) = .failed ∧
      (Event.failed .blockchain).Fits
        (Event.replay .blockchain [.switched .blockchain .governance, .reset]) := by
  intro calls
  have hnotify : ∀ call ∈ calls, ∀ force, call.op ≠ .reset force false := by decide
  obtain ⟨hstage, hfits, -, -⟩ := stage_of_replay {} 0 calls hnotify
  exact ⟨hnotify, hstage, hfits [.switched .blockchain .governance, .reset] _ [] rfl⟩

end QuorumNode.Sync
