/-
A sync with its settings and the feed of its events, ready to be driven.
-/
import QuorumNode.Sync.Operation
import QuorumNode.Sync.Transport

namespace QuorumNode.Sync

structure Machine where
  settings : Settings
  state : State
  feed : Feed
deriving DecidableEq, Repr

namespace Machine

def start (settings : Settings) (now : Int) : Machine :=
  ⟨settings, State.start now, Feed.empty⟩

/-- Performs one operation: events go to the feed, requests to the transport,
whose peers are the ones the operation sees. -/
def perform (m : Machine) (now : Int) (transport : Transport) (op : Operation) :
    Machine × Transport :=
  let outcome := m.state.step m.settings now transport.peers op
  ({ m with
      state := outcome.state
      feed := outcome.events.foldl Feed.publish m.feed },
    transport.send outcome.requests)

/-- What the operation will answer. -/
def reply (m : Machine) (now : Int) (op : Operation) : Reply :=
  m.state.reply m.settings now op

end Machine

end QuorumNode.Sync
