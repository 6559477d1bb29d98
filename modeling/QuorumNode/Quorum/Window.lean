/-
Mining windows on the block schedule.  Heights are counted from the start of
the chain, and every interval repeats the same window.
-/
import QuorumNode.Quorum.Table

namespace QuorumNode.Quorum

/-- Whether the final commitment may be mined at `height`.  Without an interval
there is no window. -/
def Params.mining (p : Params) (height : Nat) : Bool :=
  p.interval != 0 &&
    (p.windowFirst ≤ height % p.interval && height % p.interval ≤ p.windowLast)

/-- Whether some quorum of the table is in its window. -/
def Table.mining (table : Table) (height : Nat) : Bool :=
  table.entries.any (·.mining height)

theorem Table.mining_eq_true_iff (table : Table) (height : Nat) :
    table.mining height = true ↔ ∃ p ∈ table.entries, p.mining height = true := by
  simp [Table.mining]

end QuorumNode.Quorum
