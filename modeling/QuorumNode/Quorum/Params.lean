/-
The parameter set that governs one quorum kind, the rules it has to keep, and
the check that names the first rule it breaks.
-/
import QuorumNode.Quorum.Error
import QuorumNode.Quorum.Kind

namespace QuorumNode.Quorum

/-- Reads a kind from text, blanks at either end aside. -/
def Kind.parse (text : String) : Except Error Kind :=
  match Kind.ofText? (Text.trimmed text) with
  | some kind => .ok kind
  | none => .error (.unknownKind (Text.trimmed text))

/-- Sizes count members, intervals and windows count blocks.  The mining window
gives the first and the last offset inside an interval at which the final
commitment may be mined. -/
structure Params where
  kind : Kind
  name : String
  size : Nat
  minSize : Nat
  threshold : Nat
  interval : Nat
  phaseBlocks : Nat
  windowFirst : Nat
  windowLast : Nat
  badVotes : Nat
  activeCount : Nat
  keepConnections : Nat
deriving DecidableEq, Repr, Inhabited

namespace Params

/-- The window lies inside the interval, and a quorum of the least size can
still reach the signing threshold. -/
structure Valid (p : Params) : Prop where
  interval_pos : 0 < p.interval
  window_ordered : p.windowFirst ≤ p.windowLast
  window_fits : p.windowLast < p.interval
  threshold_pos : 0 < p.threshold
  threshold_le : p.threshold ≤ p.minSize
  minSize_le : p.minSize ≤ p.size

/-- Interval, window and threshold are checked in this order; the first broken
rule is the error. -/
def check (p : Params) : Except Error Unit :=
  if p.interval = 0 then
    .error (.zeroInterval p.name)
  else if p.windowFirst > p.windowLast ∨ p.windowLast ≥ p.interval then
    .error (.miningWindow p.name p.windowFirst p.windowLast p.interval)
  else if p.threshold = 0 ∨ p.threshold > p.minSize ∨ p.minSize > p.size then
    .error (.threshold p.name p.threshold p.minSize p.size)
  else .ok ()

theorem check_eq_ok_iff (p : Params) : p.check = .ok () ↔ p.Valid := by
  constructor
  · intro h
    unfold check at h
    split at h
    · simp at h
    · split at h
      · simp at h
      · split at h
        · simp at h
        · constructor <;> omega
  · intro h
    have := h.interval_pos
    have := h.window_ordered
    have := h.window_fits
    have := h.threshold_pos
    have := h.threshold_le
    have := h.minSize_le
    unfold check
    rw [if_neg (by omega), if_neg (by omega), if_neg (by omega)]

instance (p : Params) : Decidable p.Valid :=
  decidable_of_iff
    ((0 < p.interval ∧ p.windowFirst ≤ p.windowLast ∧ p.windowLast < p.interval) ∧
      0 < p.threshold ∧ p.threshold ≤ p.minSize ∧ p.minSize ≤ p.size)
    ⟨fun ⟨⟨a, b, c⟩, d, e, f⟩ => ⟨a, b, c, d, e, f⟩,
      fun ⟨a, b, c, d, e, f⟩ => ⟨⟨a, b, c⟩, d, e, f⟩⟩

end Params

end QuorumNode.Quorum
