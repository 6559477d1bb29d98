/-
Runs of a sync.  A run is a list of calls; every call brings its own time and
its own list of connected peers, so both may change at will between two calls.
-/
import QuorumNode.Sync.Machine

namespace QuorumNode.Sync

/-- Maintenance ticks too, after a look at the tip. -/
def Operation.ticks : Operation → Bool
  | tick | maintain => true
  | _ => false

/-- An operation with the time and the connected peers it is called with. -/
structure Call where
  now : Int
  peers : List Peer
  op : Operation
deriving DecidableEq, Repr

/-- One step of a run: a call and the state that the call finds. -/
structure Step where
  before : State
  call : Call
deriving DecidableEq, Repr

namespace State

def outcome (cfg : Settings) (s : State) (call : Call) : Outcome :=
  s.step cfg call.now call.peers call.op

def after (cfg : Settings) (s : State) (call : Call) : State :=
  (s.outcome cfg call).state

/-- The state after all of the calls. -/
def run (cfg : Settings) (s : State) (calls : List Call) : State :=
  calls.foldl (after cfg) s

/-- The steps that the calls make, in order. -/
def trace (cfg : Settings) : State → List Call → List Step
  | _, [] => []
  | s, call :: rest => ⟨s, call⟩ :: trace cfg (s.after cfg call) rest

/-- Whether a call starts the sync again: a reset that is not refused, a tick
after a suspension unless the sync has failed, or a tip that is not the best
header although that one was reached. -/
def restarts (cfg : Settings) (s : State) (call : Call) : Bool :=
  match call.op with
  | .reset force _ => force || s.stage != .finished
  | .tick | .maintain =>
      cfg.suspendRestart < call.now - s.tickedAt && s.stage != .failed
  | .blockTip tip initialDownload =>
      !s.stage.terminal && !initialDownload && s.reachedBest &&
        s.bestHeader.map BlockRef.hash != some tip.hash
  | _ => false

@[simp] theorem run_nil (cfg : Settings) (s : State) : s.run cfg [] = s := rfl

@[simp] theorem run_cons (cfg : Settings) (s : State) (call : Call) (rest : List Call) :
    s.run cfg (call :: rest) = (s.after cfg call).run cfg rest := rfl

theorem run_append (cfg : Settings) (s : State) (first last : List Call) :
    s.run cfg (first ++ last) = (s.run cfg first).run cfg last := by
  simp [run]

@[simp] theorem run_concat (cfg : Settings) (s : State) (calls : List Call) (call : Call) :
    s.run cfg (calls ++ [call]) = (s.run cfg calls).after cfg call := by
  rw [run_append, run_cons, run_nil]

@[simp] theorem trace_nil (cfg : Settings) (s : State) : s.trace cfg [] = [] := rfl

@[simp] theorem trace_cons (cfg : Settings) (s : State) (call : Call) (rest : List Call) :
    s.trace cfg (call :: rest) = ⟨s, call⟩ :: (s.after cfg call).trace cfg rest := rfl

theorem trace_append (cfg : Settings) (s : State) (first last : List Call) :
    s.trace cfg (first ++ last) =
      s.trace cfg first ++ (s.run cfg first).trace cfg last := by
  induction first generalizing s with
  | nil => rfl
  | cons call rest ih => simp [ih]

@[simp] theorem trace_concat (cfg : Settings) (s : State) (calls : List Call) (call : Call) :
    s.trace cfg (calls ++ [call]) = s.trace cfg calls ++ [⟨s.run cfg calls, call⟩] := by
  rw [trace_append, trace_cons, trace_nil]

/-- Steps are made by the calls of the run only. -/
theorem call_mem_of_mem_trace {cfg : Settings} {s : State} {calls : List Call} {x : Step}
    (hx : x ∈ s.trace cfg calls) : x.call ∈ calls := by
  induction calls generalizing s with
  | nil => cases hx
  | cons call rest ih =>
      rcases List.mem_cons.mp hx with rfl | hlater
      · exact List.mem_cons_self
      · exact List.mem_cons_of_mem call (ih hlater)

theorem forall_mem_trace_concat {cfg : Settings} {P : Step → Prop} {s : State}
    {calls : List Call} {call : Call} :
    (∀ x ∈ s.trace cfg (calls ++ [call]), P x) ↔
      (∀ x ∈ s.trace cfg calls, P x) ∧ P ⟨s.run cfg calls, call⟩ := by
  rw [trace_concat, List.forall_mem_append, List.forall_mem_singleton]

/-- None of the calls starts the sync again. -/
def Unbroken (cfg : Settings) (s : State) (calls : List Call) : Prop :=
  ∀ x ∈ s.trace cfg calls, x.before.restarts cfg x.call = false

theorem unbroken_nil (cfg : Settings) (s : State) : s.Unbroken cfg [] := by
  simp [Unbroken]

theorem unbroken_cons {cfg : Settings} {s : State} {call : Call} {rest : List Call} :
    s.Unbroken cfg (call :: rest) ↔
      s.restarts cfg call = false ∧ (s.after cfg call).Unbroken cfg rest := by
  rw [Unbroken, trace_cons, List.forall_mem_cons]
  rfl

theorem unbroken_concat {cfg : Settings} {s : State} {calls : List Call} {call : Call} :
    s.Unbroken cfg (calls ++ [call]) ↔
      s.Unbroken cfg calls ∧ (s.run cfg calls).restarts cfg call = false :=
  forall_mem_trace_concat

/-- What holds of a state and is kept by every call holds after every run. -/
theorem run_induction {cfg : Settings} {P : State → Prop} {s : State} (hstart : P s)
    (hstep : ∀ (t : State) (call : Call), P t → P (t.after cfg call)) (calls : List Call) :
    P (s.run cfg calls) := by
  induction calls generalizing s with
  | nil => exact hstart
  | cons call rest ih => exact ih (hstep s call hstart)

/-- What every call keeps two states apart by, every run keeps them apart by. -/
theorem run_map {cfg : Settings} {f : State → State} {g : Call → Call}
    (hstep : ∀ (s : State) (call : Call), (f s).after cfg (g call) = f (s.after cfg call))
    (s : State) (calls : List Call) : (f s).run cfg (calls.map g) = f (s.run cfg calls) := by
  induction calls generalizing s with
  | nil => rfl
  | cons call rest ih => rw [List.map_cons, run_cons, hstep, ih, run_cons]

end State

namespace Step

def outcome (cfg : Settings) (x : Step) : Outcome := x.before.outcome cfg x.call

def after (cfg : Settings) (x : Step) : State := x.before.after cfg x.call

def restarts (cfg : Settings) (x : Step) : Bool := x.before.restarts cfg x.call

def reply (cfg : Settings) (x : Step) : Reply := x.before.reply cfg x.call.now x.call.op

end Step

end QuorumNode.Sync
