/-
A node together with the transport that serves it and the estimate it goes by.
What can happen to its sync alone can happen to the node; besides that the
estimate changes, and now and then the whole node is maintained.
-/
import QuorumNode.Node.Context
import QuorumNode.Proofs.Quorum.History
import QuorumNode.Proofs.Sync.Site

namespace QuorumNode.Node

/-- What can happen at a node. -/
inductive Happening where
  | sync (happening : Sync.Happening)
  | estimate (estimate : Estimate)
  | maintain (now : Int)
deriving DecidableEq, Repr

/-- `batches` holds what was taken off the queue, batch by batch. -/
structure Site where
  node : Context
  transport : Sync.Transport
  batches : List (List Sync.Request)
  estimate : Estimate
deriving DecidableEq, Repr

namespace Site

def start (params : Chain.Params) (settings : Sync.Settings) (began : Int)
    (peers : List Sync.Peer) (estimate : Estimate) : Site :=
  ⟨Context.start params settings began, Sync.Transport.ofPeers peers, [], estimate⟩

/-- The sync of the node, as a site of its own. -/
def synced (site : Site) : Sync.Site :=
  ⟨site.node.sync, site.transport, site.batches⟩

def after (site : Site) : Happening → Site
  | .sync (.perform now op) =>
      let performed := site.node.perform now site.transport op
      { site with node := performed.1, transport := performed.2 }
  | .sync happening =>
      let served := site.synced.after happening
      { site with transport := served.transport, batches := served.batches }
  | .estimate estimate => { site with estimate }
  | .maintain now =>
      let maintained := site.node.maintain now site.transport site.estimate
      { site with node := maintained.1, transport := maintained.2.1 }

def run (site : Site) (happenings : List Happening) : Site :=
  happenings.foldl after site

/-- What maintenance offers to the registry, once a tip is known. -/
def attempt? (site : Site) : Happening → Option Quorum.Attempt
  | .maintain now =>
      (site.synced.after (.perform now .maintain)).machine.state.tip.map fun tip =>
        ⟨tip.height, site.estimate.population, site.estimate.lowParams⟩
  | _ => none

/-- All that is offered to the registry, in order. -/
def attempts : Site → List Happening → List Quorum.Attempt
  | _, [] => []
  | site, happening :: rest =>
      (site.attempt? happening).toList ++ (site.after happening).attempts rest

theorem after_params (site : Site) (happening : Happening) :
    (site.after happening).node.params = site.node.params := by
  cases happening with
  | sync happening => cases happening <;> rfl
  | estimate estimate => rfl
  | maintain now =>
      simp only [after, Context.maintain, Context.reconfigure]
      split <;> rfl

/-- Only maintenance reaches the registry, and then as one attempt. -/
theorem after_registry (site : Site) (happening : Happening) :
    (site.after happening).node.registry =
      site.node.registry.run (site.attempt? happening).toList := by
  cases happening with
  | sync happening => cases happening <;> rfl
  | estimate estimate => rfl
  | maintain now =>
      simp only [after, Context.maintain, Context.reconfigure]
      cases htip : (site.node.perform now site.transport .maintain).1.sync.state.tip with
      | none =>
          have hattempt : site.attempt? (.maintain now) = none :=
            Option.map_eq_none_iff.mpr htip
          rw [hattempt]
          rfl
      | some tip =>
          have hattempt : site.attempt? (.maintain now) =
              some ⟨tip.height, site.estimate.population, site.estimate.lowParams⟩ :=
            Option.map_eq_some_iff.mpr ⟨tip, htip, rfl⟩
          rw [hattempt]
          rfl

theorem run_params (site : Site) (happenings : List Happening) :
    (site.run happenings).node.params = site.node.params := by
  induction happenings generalizing site with
  | nil => rfl
  | cons happening rest ih =>
      change ((site.after happening).run rest).node.params = _
      rw [ih, after_params]

theorem run_registry (site : Site) (happenings : List Happening) :
    (site.run happenings).node.registry =
      site.node.registry.run (site.attempts happenings) := by
  induction happenings generalizing site with
  | nil => rfl
  | cons happening rest ih =>
      change ((site.after happening).run rest).node.registry = _
      rw [ih, attempts, Quorum.Registry.run_append, after_registry]

end Site

end QuorumNode.Node
