/-
A quorum table as rows of a key and a parameter set.  In a row the key stands apart from
the set: that the keys ascend, and that each stands over a set of its own kind, is not in
the type but comes from the way the rows are written.
-/
import QuorumNode.Quorum.Table

namespace QuorumNode.Quorum

/-- The row of a set that is filed under its own kind. -/
def Params.row (p : Params) : Kind × Params := (p.kind, p)

@[simp] theorem Params.row_fst (p : Params) : p.row.1 = p.kind := rfl

@[simp] theorem Params.row_snd (p : Params) : p.row.2 = p := rfl

abbrev Rows := List (Kind × Params)

namespace Rows

def get? (rows : Rows) (key : Kind) : Option Params :=
  (rows.find? (·.1 = key)).map (·.2)

/-- Writes `p` under `key`, and gives the set that stood there.  The walk ends at the first
key that is not below `key`. -/
def put (key : Kind) (p : Params) : Rows → Option Params × Rows
  | [] => (none, [(key, p)])
  | head :: rest =>
      if key.id < head.1.id then (none, (key, p) :: head :: rest)
      else if key = head.1 then (some head.2, (key, p) :: rest)
      else (put key p rest).map id (head :: ·)

/-- Files the sets one after the other, and gives what stood in the place of each. -/
def file (rows : Rows) : List Params → List (Option Params) × Rows
  | [] => ([], rows)
  | p :: rest =>
      let written := put p.kind p rows
      (file written.2 rest).map (written.1 :: ·) id

/-- Of neighbours under one key keeps the last. -/
def keepLast : Rows → Rows
  | [] => []
  | row :: rest => if rest.head?.any (·.1 = row.1) then keepLast rest else row :: keepLast rest

def keyLe (first second : Kind × Params) : Bool := first.1.id ≤ second.1.id

theorem keyLe_iff (first second : Kind × Params) :
    keyLe first second = true ↔ first.1.id ≤ second.1.id :=
  decide_eq_true_iff

/-- Builds a table at one go: the rows are brought into the order of their keys, those of one
key as they came, and the last of each key is kept. -/
def collect (rows : Rows) : Rows := keepLast (rows.mergeSort keyLe)

end Rows

end QuorumNode.Quorum
