/-
The background tasks of a node and the ticker that wakes them.  Time here is the
time of the scheduler in milliseconds, which the clock of the sync knows nothing
of.
-/
import QuorumNode.Node.Context

namespace QuorumNode.Node

/-- What to do about ticks that came due while nobody looked: fire once for each
of them, or once for all and then keep to the rhythm. -/
inductive MissedTicks where
  | catchUp
  | skip
deriving DecidableEq, Repr

/-- The first tick is due at once. -/
structure Ticker where
  period : Nat
  missed : MissedTicks
  due : Nat
deriving DecidableEq, Repr

namespace Ticker

def start (period : Nat) (missed : MissedTicks) : Ticker := ⟨period, missed, 0⟩

/-- A tick that is later than this many milliseconds counts as missed. -/
def tolerance : Nat := 5

/-- The nanoseconds by which a tick may miss its rhythm, a bound of some 584
years. -/
def lagBound : Nat := 0x10000000000000000

/-- When the next tick is due after one fired at `now`.  A ticker that keeps to
its rhythm has none if it lags too far behind it. -/
def nextDue? (t : Ticker) (now : Nat) : Option Nat :=
  match t.missed with
  | .catchUp => some (t.due + t.period)
  | .skip =>
      if t.due + tolerance < now then
        let lag := (now - t.due) % t.period
        if lag * 1000000 < lagBound then some (now + t.period - lag) else none
      else some (t.due + t.period)

/-- How many ticks fire at `now`, and the ticker after them, unless it broke
down.  No more can fire than one for each millisecond since the first was due. -/
def poll (now : Nat) (t : Ticker) : Nat × Option Ticker :=
  go (now + 1 - t.due) 0 t
where
  go : Nat → Nat → Ticker → Nat × Option Ticker
    | 0, fired, t => (fired, some t)
    | fuel + 1, fired, t =>
        if now < t.due then (fired, some t)
        else
          match t.nextDue? now with
          | some due => go fuel (fired + 1) { t with due }
          | none => (fired, none)

end Ticker

/-- Maintenance, handing over requests, or reporting events. -/
inductive Task where
  | maintain
  | drain
  | report
deriving DecidableEq, Repr

/-- One background task of a node; `elapsed` is the scheduler's time. -/
structure Service where
  node : Context
  transport : Sync.Transport
  task : Task
  ticker : Ticker
  elapsed : Nat
  finished : Bool
deriving DecidableEq, Repr

namespace Service

/-- What the task does when its ticker fires.  Reporting waits for events instead
and leaves no trace here. -/
def fire (s : Service) (now : Int) (estimate : Estimate) : Service :=
  match s.task with
  | .maintain =>
      let (node, transport, _) := s.node.maintain now s.transport estimate
      { s with node, transport }
  | .drain => { s with transport := s.transport.drain.2 }
  | .report => s

def fires : Nat → Int → Estimate → Service → Service
  | 0, _, _, s => s
  | n + 1, now, estimate, s => fires n now estimate (s.fire now estimate)

/-- Lets the task do everything that is due.  It ends with its ticker. -/
def settle (s : Service) (now : Int) (estimate : Estimate) : Service :=
  if s.finished || s.task == .report then s
  else
    match s.ticker.poll s.elapsed with
    | (fired, some ticker) => fires fired now estimate { s with ticker }
    | (fired, none) => { fires fired now estimate s with finished := true }

/-- The task starts with the service and runs as soon as it can.  Only
maintenance leaves out missed ticks.  A task that needs a ticker cannot go on
with one that has no period. -/
def start (node : Context) (transport : Sync.Transport) (task : Task) (period : Nat)
    (now : Int) (estimate : Estimate) : Service :=
  let missed := if task = .maintain then .skip else .catchUp
  let finished := period == 0 && task != .report
  settle ⟨node, transport, task, Ticker.start period missed, 0, finished⟩ now estimate

/-- The scheduler's time goes on by `ms` milliseconds. -/
def run (s : Service) (ms : Nat) (now : Int) (estimate : Estimate) : Service :=
  settle { s with elapsed := s.elapsed + ms } now estimate

/-- The task ends and does nothing from then on. -/
def shutdown (s : Service) : Service := { s with finished := true }

end Service

end QuorumNode.Node
