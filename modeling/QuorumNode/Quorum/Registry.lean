/-
The quorum parameters in force.  A registry starts from its network's table and
replaces the managed kinds when the population asks for it, but only forwards
on the chain and only while no quorum is in its mining window.
-/
import QuorumNode.Quorum.Preset
import QuorumNode.Quorum.Window

namespace QuorumNode.Quorum

/-- The inputs of the last reconfiguration that took effect. -/
structure Applied where
  height : Nat
  count : Nat
  lowParams : Bool
deriving DecidableEq, Repr, Inhabited

/-- What an attempt to reconfigure came to. -/
inductive Verdict where
  | applied (bucket : Bucket)
  | nonMonotonic
  | unchanged
  | miningPhase
deriving DecidableEq, Repr

def Verdict.isApplied : Verdict → Bool
  | applied _ => true
  | _ => false

structure Registry where
  table : Table
  last : Applied
  bucket : Option Bucket
deriving DecidableEq, Repr

/-- A kind was asked for that the table does not have. -/
structure MissingKind where
  kind : Kind
deriving DecidableEq, Repr

def MissingKind.message (missing : MissingKind) : String :=
  s!"quorum type {missing.kind.name} is not configured"

/-- The table with each managed kind as the bucket wants it. -/
def Table.overlay (table : Table) (bucket : Bucket) : Table :=
  bucket.presets.foldl Table.insert table

namespace Registry

/-- Nothing has been applied yet, which counts as height 0 and no masternodes. -/
def ofTable (table : Table) : Registry :=
  ⟨table, ⟨0, 0, false⟩, none⟩

def active (r : Registry) (kind : Kind) : Except MissingKind Params :=
  match r.table.get? kind with
  | some p => .ok p
  | none => .error ⟨kind⟩

/-- Height, change and mining windows are looked at in this order; the first
that speaks against the attempt decides the verdict. -/
def verdict (r : Registry) (count height : Nat) (lowParams : Bool) : Verdict :=
  if height ≤ r.last.height then .nonMonotonic
  else if count = r.last.count ∧ lowParams = r.last.lowParams then .unchanged
  else if r.table.mining height then .miningPhase
  else .applied (Bucket.ofCount count)

/-- An applied attempt overlays the table and is remembered; every other one
leaves the registry as it is. -/
def reconfigure (r : Registry) (count height : Nat) (lowParams : Bool) : Registry :=
  match r.verdict count height lowParams with
  | .applied bucket => ⟨r.table.overlay bucket, ⟨height, count, lowParams⟩, some bucket⟩
  | _ => r

end Registry

end QuorumNode.Quorum
