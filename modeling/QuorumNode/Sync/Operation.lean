/-
The operations on a sync.  Each takes the time and the connected peers it was
called with; `step` is the one transition that the rest of a node uses.
-/
import QuorumNode.Sync.State

namespace QuorumNode.Sync

/-- A failed sync has no next stage. -/
structure SwitchError where
  stage : Stage
deriving DecidableEq, Repr

def SwitchError.message (e : SwitchError) : String :=
  s!"cannot advance past {e.stage.name}: the sync session failed and must be reset first"

inductive Operation where
  | reset (force notify : Bool)
  | advance
  | bump
  | receive (sender : Peer) (message : Message)
  | tick
  | maintain
  | acceptHeader (header : BlockRef)
  | headerTip (header : BlockRef) (initialDownload : Bool)
  | blockTip (tip : BlockRef) (initialDownload : Bool)
  | checkTip
deriving DecidableEq, Repr

/-- What an operation answers. -/
inductive Reply where
  | done
  | flag (b : Bool)
  | stage (stage : Stage)
  | refused (cause : SwitchError)
  | disposed (disposition : Disposition)
deriving DecidableEq, Repr

namespace State

/-- A finished sync is reset only by force. -/
def resets (force : Bool) (s : State) : Bool :=
  force || s.stage != .finished

def reset (now : Int) (force notify : Bool) (s : State) : Outcome :=
  if s.resets force then s.restart now notify else s.quiet

/-- Where `advance` leads; a finished sync stays finished. -/
def advanceReply (s : State) : Reply :=
  match s.stage.next? with
  | some next => .stage next
  | none => if s.stage = .finished then .stage s.stage else .refused ⟨s.stage⟩

/-- A height is always recorded.  Anything else counts only in the stage it is
about, and nothing counts after the end.  A stage that is declared served is
completed, unless the sync refuses to leave it. -/
def disposition (message : Message) (s : State) : Disposition :=
  match message with
  | .bestHeight _ => .recorded
  | _ =>
      if s.stage.terminal then .ignored
      else
        match message.stage? with
        | none => .ignored
        | some about =>
            if about ≠ s.stage then .stale
            else
              match message with
              | .statusCount .. =>
                  match s.advanceReply with
                  | .refused _ => .ignored
                  | _ => .completed
              | _ => .progress

def receive (now : Int) (peers : List Peer) (sender : Peer) (message : Message)
    (s : State) : Outcome :=
  match s.disposition message, message with
  | .recorded, .bestHeight height =>
      quiet { s with heights := s.heights.record sender height }
  | .completed, _ => s.advance now peers
  | .progress, _ => (s.bump now).quiet
  | _, _ => s.quiet

/-- Counts a timeout and asks another peer, or gives up. -/
def timeOut (cfg : Settings) (now : Int) (peers : List Peer) (s : State) : Outcome :=
  let counted := { s with attempt := s.attempt + 1 }
  if cfg.maxAttempts < counted.attempt then counted.fail now
  else
    match counted.ask? peers with
    | some (asked, request) => ⟨{ asked with bumpedAt := now }, [], [request]⟩
    | none => counted.fail now

/-- A tick that is due: end a quiet blockchain stage, time out, or ask for the
first time. -/
def dueTick (cfg : Settings) (now : Int) (peers : List Peer) (s : State) : Outcome :=
  if s.stage.terminal then s.quiet
  else if s.stage = .blockchain ∧ s.reachedBest = true ∧
      cfg.quietPeriod peers < now - s.bumpedAt then
    s.advance now peers
  else if cfg.timeout < now - s.bumpedAt then s.timeOut cfg now peers
  else if s.current = none then s.ask peers
  else s.quiet

/-- A tick is counted and forgets the heights of lost peers even if it comes too
early to do more.  After a suspension everything but a failed sync starts
again. -/
def tick (cfg : Settings) (now : Int) (peers : List Peer) (s : State) : Outcome :=
  let counted := { s with ticks := s.ticks + 1, heights := s.heights.keep peers }
  let due := { counted with tickedAt := now }
  if cfg.suspendRestart < now - s.tickedAt then
    if s.stage = .failed then due.quiet else due.restart now true
  else if now - s.tickedAt < cfg.tick then counted.quiet
  else due.dueTick cfg now peers

/-- Whether the tip has been still for so long that it may no longer be the
best. -/
def tipIsStale (cfg : Settings) (now : Int) (s : State) : Bool :=
  s.reachedBest && cfg.tipReset < now - s.tipMovedAt

def checkTip (cfg : Settings) (now : Int) (s : State) : State :=
  if s.tipIsStale cfg now then { s with reachedBest := false } else s

/-- A look at the tip and then a tick, both at one time. -/
def maintain (cfg : Settings) (now : Int) (peers : List Peer) (s : State) : Outcome :=
  (s.checkTip cfg now).tick cfg now peers

/-- A new header is progress until the best header is reached. -/
def acceptHeader (now : Int) (s : State) : State :=
  if s.reachedBest then s else s.bumpBlockchain now

/-- The best known header changed. -/
def headerTip (now : Int) (header : BlockRef) (initialDownload : Bool) (s : State) : State :=
  let seen := { s with bestHeader := some header }
  if s.stage.terminal then seen
  else
    let bumped := seen.bumpBlockchain now
    if initialDownload || s.reachedBest then bumped else bumped.noteBest

/-- The validated tip moved.  Once the best header was reached, a tip that is
another block starts the sync again. -/
def blockTip (now : Int) (tip : BlockRef) (initialDownload : Bool) (s : State) : Outcome :=
  let seen := { s with tipMovedAt := now, tip := some tip }
  if s.stage.terminal then seen.quiet
  else
    let bumped := seen.bumpBlockchain now
    if initialDownload then bumped.quiet
    else if s.reachedBest then
      if bumped.tipMatches then bumped.quiet else bumped.restart now true
    else bumped.noteBest.quiet

/-- What an operation does. -/
def step (cfg : Settings) (now : Int) (peers : List Peer) (s : State) : Operation → Outcome
  | .reset force notify => s.reset now force notify
  | .advance => s.advance now peers
  | .bump => (s.bump now).quiet
  | .receive sender message => s.receive now peers sender message
  | .tick => s.tick cfg now peers
  | .maintain => s.maintain cfg now peers
  | .acceptHeader _ => (s.acceptHeader now).quiet
  | .headerTip header initialDownload => (s.headerTip now header initialDownload).quiet
  | .blockTip tip initialDownload => s.blockTip now tip initialDownload
  | .checkTip => (s.checkTip cfg now).quiet

/-- What an operation answers; it is settled by the state before it. -/
def reply (cfg : Settings) (now : Int) (s : State) : Operation → Reply
  | .reset force _ => .flag (s.resets force)
  | .advance => s.advanceReply
  | .receive _ message => .disposed (s.disposition message)
  | .checkTip => .flag (s.tipIsStale cfg now)
  | _ => .done

end State

end QuorumNode.Sync
