/-
A node is no more than its parts.  Its sync runs as a sync alone would, and its registry
answers as a registry alone that is offered, at each maintenance, the height of the tip
that was told last.
-/
import Mathlib.Data.List.Induction
import QuorumNode.Proofs.Node.Site
import QuorumNode.Proofs.Sync.CaughtUp

namespace QuorumNode.Node

namespace Happening

/-- What a happening is for the sync of a node. -/
def forSync : Happening → Option Sync.Happening
  | sync happening => some happening
  | estimate _ => none
  | maintain now => some (.perform now .maintain)

/-- The tip that a happening tells of. -/
def tip? : Happening → Option BlockRef
  | sync (.perform _ (.blockTip tip _)) => some tip
  | _ => none

/-- The estimate that a happening brings. -/
def estimate? : Happening → Option Estimate
  | .estimate changed => some changed
  | _ => none

end Happening

/-- The tip that was told last. -/
def lastTip? (happenings : List Happening) : Option BlockRef :=
  (happenings.filterMap Happening.tip?).getLast?

/-- The estimate in force after the happenings. -/
def lastEstimate (first : Estimate) (happenings : List Happening) : Estimate :=
  (happenings.filterMap Happening.estimate?).getLast?.getD first

/-- What a registry is offered by a happening, in view of those before it. -/
def offer? (first : Estimate) (earlier : List Happening) : Happening → Option Quorum.Attempt
  | .maintain _ =>
      (lastTip? earlier).map fun tip =>
        ⟨tip.height, (lastEstimate first earlier).population, (lastEstimate first earlier).lowParams⟩
  | _ => none

/-- What a registry is offered by happenings in a row, in view of those before them. -/
def offers (first : Estimate) : (earlier happenings : List Happening) → List Quorum.Attempt
  | _, [] => []
  | earlier, happening :: rest =>
      (offer? first earlier happening).toList ++ offers first (earlier ++ [happening]) rest

theorem lastTip?_concat (happenings : List Happening) (happening : Happening) :
    lastTip? (happenings ++ [happening]) = happening.tip?.or (lastTip? happenings) :=
  Sync.getLast?_filterMap_concat Happening.tip? happenings happening

theorem lastEstimate_concat (first : Estimate) (happenings : List Happening)
    (happening : Happening) :
    lastEstimate first (happenings ++ [happening]) =
      happening.estimate?.getD (lastEstimate first happenings) := by
  rw [lastEstimate, Sync.getLast?_filterMap_concat]
  cases happening.estimate? <;> rfl

theorem lastTip?_eq_none_iff (happenings : List Happening) :
    lastTip? happenings = none ↔ ∀ happening ∈ happenings, happening.tip? = none := by
  rw [lastTip?, List.getLast?_eq_none_iff, List.filterMap_eq_nil_iff]

namespace Site

/-- The registry's part of maintenance does not touch the sync. -/
theorem after_maintain_sync (site : Site) (now : Int) :
    (site.after (.maintain now)).node.sync =
      (site.node.perform now site.transport .maintain).1.sync := by
  simp only [after, Context.maintain, Context.reconfigure]
  split <;> rfl

theorem after_synced (site : Site) (happening : Happening) :
    (site.after happening).synced = site.synced.run happening.forSync.toList := by
  cases happening with
  | sync happening => cases happening <;> rfl
  | estimate estimate => rfl
  | maintain now =>
      rw [synced, after_maintain_sync]
      rfl

theorem run_synced (site : Site) (happenings : List Happening) :
    (site.run happenings).synced =
      site.synced.run (happenings.filterMap Happening.forSync) := by
  induction happenings generalizing site with
  | nil => rfl
  | cons happening rest ih =>
      have hrun : (site.run (happening :: rest)).synced =
          ((site.after happening).run rest).synced := rfl
      rw [hrun, ih, after_synced, List.filterMap_eq_flatMap_toList,
        List.filterMap_eq_flatMap_toList, List.flatMap_cons, Sync.Site.run_append]

theorem run_concat (site : Site) (happenings : List Happening) (happening : Happening) :
    site.run (happenings ++ [happening]) = (site.run happenings).after happening := by
  simp [run]

/-- Maintaining the sync leaves its tip alone. -/
theorem maintained_tip (site : Site) (now : Int) :
    (site.node.perform now site.transport .maintain).1.sync.state.tip =
      site.node.sync.state.tip :=
  site.node.sync.state.after_tip site.node.sync.settings ⟨now, site.transport.peers, .maintain⟩

/-- Nothing but the news of a tip changes the tip. -/
theorem after_tip (site : Site) (happening : Happening) :
    (site.after happening).node.sync.state.tip =
      happening.tip?.or site.node.sync.state.tip := by
  cases happening with
  | sync happening =>
      cases happening with
      | perform now op =>
          have htip := site.node.sync.state.after_tip site.node.sync.settings
            ⟨now, site.transport.peers, op⟩
          cases op <;> exact htip
      | _ => rfl
  | estimate estimate => rfl
  | maintain now =>
      rw [after_maintain_sync]
      exact maintained_tip site now

theorem after_estimate (site : Site) (happening : Happening) :
    (site.after happening).estimate = happening.estimate?.getD site.estimate := by
  cases happening with
  | sync happening => cases happening <;> rfl
  | estimate estimate => rfl
  | maintain now => rfl

/-! What a run from the start leaves behind -/

variable {params : Chain.Params} {settings : Sync.Settings} {began : Int}
  {peers : List Sync.Peer} {estimate : Estimate}

theorem run_tip (happenings : List Happening) :
    ((start params settings began peers estimate).run happenings).node.sync.state.tip =
      lastTip? happenings := by
  induction happenings using List.reverseRecOn with
  | nil => rfl
  | append_singleton happenings happening ih =>
      rw [run_concat, after_tip, ih, lastTip?_concat]

theorem run_estimate (happenings : List Happening) :
    ((start params settings began peers estimate).run happenings).estimate =
      lastEstimate estimate happenings := by
  induction happenings using List.reverseRecOn with
  | nil => rfl
  | append_singleton happenings happening ih =>
      rw [run_concat, after_estimate, ih, lastEstimate_concat]

/-- What maintenance offers depends on the past alone. -/
theorem run_attempt? (earlier : List Happening) (happening : Happening) :
    ((start params settings began peers estimate).run earlier).attempt? happening =
      offer? estimate earlier happening := by
  cases happening with
  | sync happening => rfl
  | estimate changed => rfl
  | maintain now =>
      have htip := maintained_tip ((start params settings began peers estimate).run earlier) now
      rw [run_tip] at htip
      rw [offer?, ← htip, ← run_estimate]
      rfl

theorem run_attempts (earlier happenings : List Happening) :
    ((start params settings began peers estimate).run earlier).attempts happenings =
      offers estimate earlier happenings := by
  induction happenings generalizing earlier with
  | nil => rfl
  | cons happening rest ih =>
      rw [attempts, run_attempt?, ← run_concat, ih]
      rfl

/-- Maintenance answers what the registry says to the tip that was told last. -/
theorem run_verdict (happenings : List Happening) (now : Int) :
    let site := (start params settings began peers estimate).run happenings
    (site.node.maintain now site.transport site.estimate).2.2 =
      (lastTip? happenings).map fun tip =>
        site.node.registry.verdict (lastEstimate estimate happenings).population tip.height
          (lastEstimate estimate happenings).lowParams := by
  intro site
  have htip := maintained_tip site now
  rw [run_tip] at htip
  rw [← htip, ← run_estimate]
  rfl

end Site

/-- Neither part of a node notices the other.  The sync is what the same happenings
make of a sync alone, and the registry what a registry alone comes to when every
maintenance offers it the estimate of the moment and the height of the tip that was
told last.  Maintenance answers that registry's verdict, or nothing as long as no tip
was told. -/
theorem parts_of_each_run (params : Chain.Params) (settings : Sync.Settings) (began : Int)
    (peers : List Sync.Peer) (estimate : Estimate) (happenings : List Happening) :
    let site := (Site.start params settings began peers estimate).run happenings
    let sync := (Sync.Site.start settings began peers).run
      (happenings.filterMap Happening.forSync)
    let registry := (Quorum.Registry.ofTable params.quorums).run (offers estimate [] happenings)
    let current := lastEstimate estimate happenings
    site.synced = sync ∧
      (∀ now op, site.node.sync.reply now op = sync.machine.reply now op) ∧
      site.node.registry = registry ∧
      (∀ now, (site.node.maintain now site.transport site.estimate).2.2 =
        (lastTip? happenings).map fun tip =>
          registry.verdict current.population tip.height current.lowParams) ∧
      (lastTip? happenings = none ↔ ∀ happening ∈ happenings, happening.tip? = none) := by
  intro site sync registry current
  have hsync : site.synced = sync := Site.run_synced _ happenings
  have hregistry : site.node.registry = registry := by
    have hattempts := Site.run_registry (Site.start params settings began peers estimate) happenings
    have hoffers : (Site.start params settings began peers estimate).attempts happenings =
        offers estimate [] happenings := Site.run_attempts [] happenings
    rw [hoffers] at hattempts
    exact hattempts
  refine ⟨hsync, ?_, hregistry, ?_, lastTip?_eq_none_iff happenings⟩
  · intro now op
    rw [← hsync]
    rfl
  · intro now
    rw [← hregistry]
    exact Site.run_verdict happenings now

end QuorumNode.Node
