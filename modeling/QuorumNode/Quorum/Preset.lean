/-
The compiled-in parameter sets and the population buckets that choose among
them.  Three of the kinds are managed: their parameters follow the number of
masternodes, all others stay as the network started with them.
-/
import QuorumNode.Quorum.Params

namespace QuorumNode.Quorum

namespace Preset

/-- Three members, for networks with hardly any masternodes. -/
def llmq3_60 : Params :=
  ⟨.llmq50_60, "llmq_3_60", 3, 2, 2, 30, 2, 10, 18, 8, 2, 3⟩

def llmq20_60 : Params :=
  ⟨.llmq400_60, "llmq_20_60", 20, 15, 12, 360, 4, 20, 28, 30, 4, 5⟩

def llmq20_85 : Params :=
  ⟨.llmq400_85, "llmq_20_85", 20, 18, 17, 720, 4, 20, 48, 30, 4, 5⟩

def llmq40_60 : Params :=
  ⟨.llmq400_60, "llmq_40_60", 40, 30, 24, 360, 4, 20, 28, 30, 4, 5⟩

def llmq40_85 : Params :=
  ⟨.llmq400_85, "llmq_40_85", 40, 35, 34, 720, 4, 20, 48, 30, 4, 5⟩

def llmq50_60 : Params :=
  ⟨.llmq50_60, "llmq_50_60", 50, 40, 30, 30, 2, 10, 18, 40, 24, 25⟩

def llmq400_60 : Params :=
  ⟨.llmq400_60, "llmq_400_60", 400, 300, 240, 360, 4, 20, 28, 300, 4, 5⟩

def llmq400_85 : Params :=
  ⟨.llmq400_85, "llmq_400_85", 400, 350, 340, 720, 4, 20, 48, 300, 4, 5⟩

/-- The three-member set again, under the kind that only regtest has. -/
def llmq5_60Regtest : Params :=
  { llmq3_60 with kind := .llmq5_60 }

def all : List Params :=
  [llmq3_60, llmq20_60, llmq20_85, llmq40_60, llmq40_85, llmq50_60, llmq400_60,
    llmq400_85, llmq5_60Regtest]

theorem valid_of_mem_all : ∀ p ∈ all, p.Valid := by decide

end Preset

/-- The kinds whose parameters follow the population. -/
def managedKinds : List Kind := [.llmq50_60, .llmq400_60, .llmq400_85]

/-- Size classes of the masternode population. -/
inductive Bucket where
  | tiny
  | small
  | medium
  | large
deriving DecidableEq, Repr, Inhabited

namespace Bucket

def ofCount (count : Nat) : Bucket :=
  if count < 5 then tiny
  else if count < 100 then small
  else if count < 600 then medium
  else large

/-- One parameter set for each managed kind, in the same order. -/
def presets : Bucket → List Params
  | tiny | small => [Preset.llmq3_60, Preset.llmq20_60, Preset.llmq20_85]
  | medium => [Preset.llmq50_60, Preset.llmq40_60, Preset.llmq40_85]
  | large => [Preset.llmq50_60, Preset.llmq400_60, Preset.llmq400_85]

theorem presets_kinds (bucket : Bucket) :
    bucket.presets.map Params.kind = managedKinds := by
  cases bucket <;> rfl

def name : Bucket → String
  | tiny => "tiny"
  | small => "small"
  | medium => "medium"
  | large => "large"

/-- The spelling of a bucket in JSON text. -/
def label : Bucket → String
  | tiny => "Tiny"
  | small => "Small"
  | medium => "Medium"
  | large => "Large"

end Bucket

end QuorumNode.Quorum
