/-
Events that tell observers of the progress of a sync, and the feed that carries
them.  The feed keeps a bounded number of the latest events; a reader that falls
further behind learns how many it has lost.
-/
import QuorumNode.Sync.Stage

namespace QuorumNode.Sync

inductive Event where
  | reset
  | switched (left entered : Stage)
  | failed (stage : Stage)
deriving DecidableEq, Repr

/-- `sent` counts all events ever; the latest of them are kept, oldest first. -/
structure Feed where
  sent : Nat
  kept : List Event
deriving DecidableEq, Repr

/-- What one attempt to read a feed gives. -/
inductive Delivery where
  | event (event : Event)
  | empty
  | lagged (lost : Nat)
deriving DecidableEq, Repr

namespace Feed

/-- How many events a feed keeps. -/
def capacity : Nat := 64

def empty : Feed := ⟨0, []⟩

def publish (feed : Feed) (event : Event) : Feed :=
  let kept := feed.kept ++ [event]
  ⟨feed.sent + 1, kept.drop (kept.length - capacity)⟩

/-- The number of the oldest event that is kept. -/
def oldest (feed : Feed) : Nat := feed.sent - feed.kept.length

/-- Reads the event with the number `next`, and tells the number to read after
it.  A new reader starts at `sent`. -/
def read (feed : Feed) (next : Nat) : Delivery × Nat :=
  if next < feed.oldest then (.lagged (feed.oldest - next), feed.oldest)
  else
    match feed.kept[next - feed.oldest]? with
    | some event => (.event event, next + 1)
    | none => (.empty, next)

/-- The kept events from the number `next` on. -/
def since (feed : Feed) (next : Nat) : List Event :=
  feed.kept.drop (next - feed.oldest)

end Feed

end QuorumNode.Sync
