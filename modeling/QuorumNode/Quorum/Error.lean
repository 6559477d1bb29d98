/-
What can be wrong with a quorum: a text that names no kind, or parameters that
break one of their three rules.
-/

namespace QuorumNode.Quorum

inductive Error where
  | unknownKind (text : String)
  | zeroInterval (name : String)
  | miningWindow (name : String) (first last interval : Nat)
  | threshold (name : String) (needed minSize size : Nat)
deriving DecidableEq, Repr

def Error.message : Error → String
  | unknownKind text => s!"unknown quorum type: {text}"
  | zeroInterval name => s!"{name}: DKG interval must be non-zero"
  | miningWindow name first last interval =>
      s!"{name}: mining window [{first}, {last}] does not fit the DKG interval {interval}"
  | threshold name needed minSize size =>
      s!"{name}: expected threshold <= min_size <= size, got {needed} / {minSize} / {size}"

end QuorumNode.Quorum
