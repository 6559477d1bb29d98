/-
How far a sync is with the chain.  Tip, header and heights on record are those that were
told last, so whether the tip is the best header is settled by what the run was told.
-/
import Mathlib.Data.List.Induction
import QuorumNode.Proofs.Sync.Advertised

namespace QuorumNode.Sync

/-- The header that an operation tells of. -/
def Operation.header? : Operation → Option BlockRef
  | headerTip header _ => some header
  | _ => none

/-- The tip that an operation tells of. -/
def Operation.tip? : Operation → Option BlockRef
  | blockTip tip _ => some tip
  | _ => none

/-- The header that was told last. -/
def lastHeader? (calls : List Call) : Option BlockRef :=
  (calls.filterMap fun call => call.op.header?).getLast?

/-- The tip that was told last. -/
def lastTip? (calls : List Call) : Option BlockRef :=
  (calls.filterMap fun call => call.op.tip?).getLast?

theorem getLast?_filterMap_concat {α β : Type} (f : α → Option β) (earlier : List α) (last : α) :
    ((earlier ++ [last]).filterMap f).getLast? = (f last).or (earlier.filterMap f).getLast? := by
  rw [List.filterMap_append, List.getLast?_append]
  cases hlast : f last with
  | none =>
      rw [List.filterMap_cons_none hlast]
      rfl
  | some item =>
      rw [List.filterMap_cons_some hlast]
      rfl

theorem lastHeader?_concat (calls : List Call) (call : Call) :
    lastHeader? (calls ++ [call]) = call.op.header?.or (lastHeader? calls) :=
  getLast?_filterMap_concat (fun call : Call => call.op.header?) calls call

theorem lastTip?_concat (calls : List Call) (call : Call) :
    lastTip? (calls ++ [call]) = call.op.tip?.or (lastTip? calls) :=
  getLast?_filterMap_concat (fun call : Call => call.op.tip?) calls call

/-- By their hashes the tip and the header that were told last are one, and no peer is
known to be further. -/
def ShowsBest (cfg : Settings) (began : Int) (calls : List Call) : Prop :=
  ∃ tip best, lastTip? calls = some tip ∧ lastHeader? calls = some best ∧
    tip.hash = best.hash ∧
    ∀ peer height, Advertised cfg began calls peer height → height ≤ best.height

namespace State

/-- The tip is the best header, and no peer is known to be further. -/
def CaughtUp (s : State) : Prop :=
  ∃ tip best, s.tip = some tip ∧ s.bestHeader = some best ∧ tip.hash = best.hash ∧
    ∀ entry ∈ s.heights, entry.2 ≤ best.height

theorem atBest_eq_true_iff {s : State} : s.atBest = true ↔ s.CaughtUp := by
  cases hbest : s.bestHeader with
  | none => simp [atBest, CaughtUp, hbest]
  | some best =>
      cases htip : s.tip with
      | none => simp [atBest, tipMatches, CaughtUp, hbest, htip]
      | some tip => simp [atBest, tipMatches, CaughtUp, Heights.within, hbest, htip]

theorem notedTip_eq (s : State) (call : Call) : s.notedTip call = call.op.tip?.or s.tip := by
  obtain ⟨now, peers, op⟩ := call
  cases op <;> rfl

theorem notedBest_eq (s : State) (call : Call) :
    s.notedBest call = call.op.header?.or s.bestHeader := by
  obtain ⟨now, peers, op⟩ := call
  cases op <;> rfl

theorem run_tip (cfg : Settings) (began : Int) (calls : List Call) :
    ((start began).run cfg calls).tip = lastTip? calls := by
  induction calls using List.reverseRecOn with
  | nil => rfl
  | append_singleton calls call ih =>
      rw [run_concat, after_tip, notedTip_eq, ih, lastTip?_concat]

theorem run_bestHeader (cfg : Settings) (began : Int) (calls : List Call) :
    ((start began).run cfg calls).bestHeader = lastHeader? calls := by
  induction calls using List.reverseRecOn with
  | nil => rfl
  | append_singleton calls call ih =>
      rw [run_concat, after_bestHeader, notedBest_eq, ih, lastHeader?_concat]

/-- The heights that bear on a run are those that were advertised in it. -/
theorem run_caughtUp_iff {cfg : Settings} {began : Int} {calls : List Call} :
    ((start began).run cfg calls).CaughtUp ↔ ShowsBest cfg began calls := by
  have hdistinct := run_heights_distinct cfg began calls
  simp only [CaughtUp, ShowsBest, run_tip, run_bestHeader]
  constructor
  · rintro ⟨tip, best, htip, hbest, hhash, hheights⟩
    refine ⟨tip, best, htip, hbest, hhash, ?_⟩
    intro peer height hadvertised
    have hheight := (height?_run_eq_some_iff cfg began calls peer height).mpr hadvertised
    exact hheights (peer, height) (Heights.mem_of_height? hheight)
  · rintro ⟨tip, best, htip, hbest, hhash, hadvertised⟩
    refine ⟨tip, best, htip, hbest, hhash, ?_⟩
    rintro ⟨peer, height⟩ hmem
    have hheight := hdistinct.height?_eq_some_iff.mpr hmem
    exact hadvertised peer height ((height?_run_eq_some_iff cfg began calls peer height).mp hheight)

end State

end QuorumNode.Sync
