/-
The four networks and the texts that select one.
-/
import QuorumNode.Data.Record
import QuorumNode.Text.Blank

namespace QuorumNode.Chain

inductive Network where
  | main
  | test
  | dev
  | regtest
deriving DecidableEq, Repr, Inhabited

namespace Network

def all : List Network := [main, test, dev, regtest]

theorem mem_all (network : Network) : network ∈ all := by
  cases network <;> decide

def name : Network → String
  | main => "main"
  | test => "test"
  | dev => "dev"
  | regtest => "regtest"

/-- The texts that select a network: its name, and a longer form for three. -/
def spellings : Network → List String
  | main => ["main", "mainnet"]
  | test => ["test", "testnet"]
  | dev => ["dev", "devnet"]
  | regtest => ["regtest"]

/-- Text without blanks at either end and in lower case. -/
def normalText (text : String) : String :=
  Text.lowered (Text.trimmed text)

def ofText? (text : String) : Option Network :=
  all.find? fun network => network.spellings.contains (normalText text)

def ofData? (v : Data.Value) : Option Network := v.choice? all name

end Network

end QuorumNode.Chain
