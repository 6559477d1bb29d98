/-
The closed set of quorum kinds.  A kind has a protocol number, which orders it,
and a name; text may give either.
-/
import QuorumNode.Data.Record
import QuorumNode.Text.Blank
import QuorumNode.Text.Numeral

namespace QuorumNode.Quorum

/-- A kind is called after its nominal size and its signing threshold in
percent. -/
inductive Kind where
  | llmq50_60
  | llmq400_60
  | llmq400_85
  | llmq5_60
deriving DecidableEq, Repr, Inhabited

namespace Kind

/-- Every kind, in the order of the numbers. -/
def all : List Kind := [llmq50_60, llmq400_60, llmq400_85, llmq5_60]

theorem mem_all (k : Kind) : k ∈ all := by
  cases k <;> decide

/-- The protocol number, below 256. -/
def id : Kind → Nat
  | llmq50_60 => 1
  | llmq400_60 => 2
  | llmq400_85 => 3
  | llmq5_60 => 100

theorem id_injective {k l : Kind} : k.id = l.id → k = l := by
  cases k <;> cases l <;> decide

theorem ne_of_id_lt {k l : Kind} (hless : k.id < l.id) : k ≠ l := by
  rintro rfl
  exact Nat.lt_irrefl k.id hless

def name : Kind → String
  | llmq50_60 => "llmq_50_60"
  | llmq400_60 => "llmq_400_60"
  | llmq400_85 => "llmq_400_85"
  | llmq5_60 => "llmq_5_60"

/-- The spelling of a kind in JSON text. -/
def label : Kind → String
  | llmq50_60 => "Llmq50_60"
  | llmq400_60 => "Llmq400_60"
  | llmq400_85 => "Llmq400_85"
  | llmq5_60 => "Llmq5_60"

def ofId? (id : Nat) : Option Kind :=
  all.find? fun k => k.id == id

/-- A text is a number or a name, never both: a numeral that names no kind is
not tried as a name. -/
def ofText? (text : String) : Option Kind :=
  match Text.numeralBelow? 256 text.toList with
  | some id => ofId? id
  | none => all.find? fun k => Text.sameLetters k.name text

def ofData? (v : Data.Value) : Option Kind := v.choice? all label

end Kind

end QuorumNode.Quorum
