/-
What can be wrong with a network's parameters or with the choice of a network.
A broken compiled-in invariant is fatal; a bad choice is the operator's to mend.
-/
import QuorumNode.Block
import QuorumNode.Chain.Network
import QuorumNode.Quorum.Params

namespace QuorumNode.Chain

inductive Error where
  | genesisMismatch (network : Network) (expected computed : Hash)
  | merkleMismatch (network : Network) (expected computed : Hash)
  | checkpointMismatch (network : Network) (height : Nat) (expected found : Hash)
  | invalidQuorum (cause : Quorum.Error)
  | unknownQuorum (kind : Quorum.Kind)
  | unknownNetwork (text : String)
  | overrideNotAllowed (network : Network)
deriving DecidableEq, Repr

namespace Error

def message : Error → String
  | genesisMismatch network expected computed =>
      s!"{network.name}: genesis hash mismatch, expected {expected.hex}, computed {computed.hex}"
  | merkleMismatch network expected computed =>
      network.name ++ ": genesis merkle root mismatch, expected " ++ expected.hex ++
        ", computed " ++ computed.hex
  | checkpointMismatch network height expected found =>
      network.name ++ ": checkpoint at height " ++ toString height ++ " is " ++ found.hex ++
        ", expected " ++ expected.hex
  | invalidQuorum cause => "Invalid quorum parameters: " ++ cause.message
  | unknownQuorum kind => s!"Quorum type {kind.name} is not configured for this network"
  | unknownNetwork text => "Unknown network: " ++ text
  | overrideNotAllowed network =>
      s!"Chain-lock quorum override is only allowed on devnet, not {network.name}"

/-- Whether the node must not keep running. -/
def isFatal : Error → Bool
  | unknownNetwork _ | overrideNotAllowed _ => false
  | _ => true

/-- The error behind this one, if it only passes one on. -/
def cause? : Error → Option Quorum.Error
  | invalidQuorum cause => some cause
  | _ => none

end Error

/-- Reads a network from text; an unknown name is reported in normal form. -/
def Network.parse (text : String) : Except Error Network :=
  match Network.ofText? text with
  | some network => .ok network
  | none => .error (.unknownNetwork (Network.normalText text))

end QuorumNode.Chain
