/-
A sync together with the transport that serves it alone.  Peers come and go, the
queue is emptied now and then, and between all that the sync performs its
operations.
-/
import QuorumNode.Proofs.Sync.Run

namespace QuorumNode.Sync

namespace State

/-- The requests that the calls send out, in order. -/
def requests (cfg : Settings) (s : State) (calls : List Call) : List Request :=
  (s.trace cfg calls).flatMap fun x => (x.outcome cfg).requests

@[simp] theorem requests_nil (cfg : Settings) (s : State) : s.requests cfg [] = [] := rfl

@[simp] theorem requests_cons (cfg : Settings) (s : State) (call : Call) (rest : List Call) :
    s.requests cfg (call :: rest) =
      (s.outcome cfg call).requests ++ (s.after cfg call).requests cfg rest := rfl

theorem requests_append (cfg : Settings) (s : State) (first last : List Call) :
    s.requests cfg (first ++ last) =
      s.requests cfg first ++ (s.run cfg first).requests cfg last := by
  simp [requests, trace_append]

end State

/-- What can happen at a site. -/
inductive Happening where
  | connect (peers : List Peer)
  | join (peer : Peer)
  | leave (peer : Peer)
  | drain
  | perform (now : Int) (op : Operation)
deriving DecidableEq, Repr

/-- `batches` holds what was taken off the queue, batch by batch. -/
structure Site where
  machine : Machine
  transport : Transport
  batches : List (List Request)
deriving DecidableEq, Repr

namespace Site

def start (cfg : Settings) (began : Int) (peers : List Peer) : Site :=
  ⟨Machine.start cfg began, Transport.ofPeers peers, []⟩

def after (site : Site) : Happening → Site
  | .connect peers => { site with transport := site.transport.setPeers peers }
  | .join peer => { site with transport := site.transport.addPeer peer }
  | .leave peer => { site with transport := site.transport.removePeer peer }
  | .drain =>
      { site with
        transport := site.transport.drain.2
        batches := site.batches ++ [site.transport.drain.1] }
  | .perform now op =>
      let performed := site.machine.perform now site.transport op
      { site with machine := performed.1, transport := performed.2 }

def run (site : Site) (happenings : List Happening) : Site :=
  happenings.foldl after site

/-- The call that the sync gets; an operation sees the peers of the moment. -/
def call? (site : Site) : Happening → Option Call
  | .perform now op => some ⟨now, site.transport.peers, op⟩
  | _ => none

/-- The calls that the sync gets, in order. -/
def calls : Site → List Happening → List Call
  | _, [] => []
  | site, happening :: rest =>
      (site.call? happening).toList ++ (site.after happening).calls rest

/-- All that has been sent, whether it still waits or not. -/
def sent (site : Site) : List Request :=
  site.batches.flatten ++ site.transport.queue

theorem run_append (site : Site) (first last : List Happening) :
    site.run (first ++ last) = (site.run first).run last :=
  List.foldl_append

theorem after_settings (site : Site) (happening : Happening) :
    (site.after happening).machine.settings = site.machine.settings := by
  cases happening <;> rfl

theorem after_state (site : Site) (happening : Happening) :
    (site.after happening).machine.state =
      site.machine.state.run site.machine.settings (site.call? happening).toList := by
  cases happening <;> rfl

theorem addPeer_queue (t : Transport) (peer : Peer) : (t.addPeer peer).queue = t.queue := by
  unfold Transport.addPeer
  split <;> rfl

theorem after_sent (site : Site) (happening : Happening) :
    (site.after happening).sent =
      site.sent ++
        site.machine.state.requests site.machine.settings (site.call? happening).toList := by
  cases happening with
  | connect peers => simp [after, sent, call?, Transport.setPeers]
  | leave peer => simp [after, sent, call?, Transport.removePeer]
  | join peer => simp [after, sent, call?, addPeer_queue]
  | drain => simp [after, sent, call?, Transport.drain]
  | perform now op =>
      simp only [sent, call?, Option.toList_some, State.requests_cons, State.requests_nil,
        List.append_nil, List.append_assoc]
      rfl

theorem run_state (site : Site) (happenings : List Happening) :
    (site.run happenings).machine.state =
      site.machine.state.run site.machine.settings (site.calls happenings) := by
  induction happenings generalizing site with
  | nil => rfl
  | cons happening rest ih =>
      change ((site.after happening).run rest).machine.state = _
      rw [ih, calls, State.run_append, after_state, after_settings]

theorem run_sent (site : Site) (happenings : List Happening) :
    (site.run happenings).sent =
      site.sent ++
        site.machine.state.requests site.machine.settings (site.calls happenings) := by
  induction happenings generalizing site with
  | nil => simp [run, calls]
  | cons happening rest ih =>
      change ((site.after happening).run rest).sent = _
      rw [ih, calls, State.requests_append, after_sent, after_state, after_settings,
        List.append_assoc]

end Site

end QuorumNode.Sync
