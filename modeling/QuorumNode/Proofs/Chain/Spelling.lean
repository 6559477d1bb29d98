/-
The texts that select a network: those like one of its spellings.  Any other text is
refused, and the name in the refusal is a text that is refused in the same words.
-/
import QuorumNode.Chain.Error
import QuorumNode.Proofs.Text.Alike

namespace QuorumNode.Chain.Network

/-- `text` is a spelling of the network, up to case and the blanks around it. -/
def Spells (network : Network) (text : String) : Prop :=
  ∃ spelling ∈ network.spellings, Text.Alike text spelling

theorem normalText_eq_iff {s t : String} : normalText s = normalText t ↔ Text.Alike s t :=
  Text.alike_iff.symm

theorem normalText_normalText (text : String) : normalText (normalText text) = normalText text :=
  normalText_eq_iff.mpr (Text.alike_lowered_trimmed text)

/-- Spellings are in normal form as they stand. -/
theorem normalText_of_mem_spellings {network : Network} :
    ∀ spelling ∈ network.spellings, normalText spelling = spelling := by
  cases network <;> decide +kernel

theorem eq_of_mem_spellings {network other : Network} :
    ∀ spelling ∈ network.spellings, spelling ∈ other.spellings → network = other := by
  cases network <;> cases other <;> decide +kernel

theorem spells_iff {network : Network} {text : String} :
    network.Spells text ↔ normalText text ∈ network.spellings := by
  constructor
  · rintro ⟨spelling, hspelling, halike⟩
    rwa [normalText_eq_iff.mpr halike, normalText_of_mem_spellings spelling hspelling]
  · intro hnormal
    refine ⟨normalText text, hnormal, ?_⟩
    rw [← normalText_eq_iff, normalText_normalText]

theorem ofText?_eq_some_iff {network : Network} {text : String} :
    ofText? text = some network ↔ network.Spells text := by
  rw [spells_iff, ofText?, Text.find?_eq_some_iff_of_unique (mem_all network), List.contains_iff_mem]
  intro other hnetwork hother
  rw [List.contains_iff_mem] at hnetwork hother
  exact eq_of_mem_spellings _ hnetwork hother

example : ofText? " MainNet\n" = some main := by decide +kernel

example : ofText? "regtestnet" = none := by decide +kernel

theorem parse_eq_ok_iff {network : Network} {text : String} :
    parse text = .ok network ↔ network.Spells text := by
  rw [← ofText?_eq_some_iff, parse]
  split <;> simp_all

theorem parse_eq_error_iff {e : Error} {text : String} :
    parse text = .error e ↔
      (∀ network : Network, ¬network.Spells text) ∧ e = .unknownNetwork (normalText text) := by
  simp only [← ofText?_eq_some_iff, parse]
  split
  next network hnetwork =>
    constructor
    · intro herror
      cases herror
    · rintro ⟨hnone, -⟩
      exact absurd hnetwork (hnone network)
  next hnone => simp [hnone, eq_comm]

theorem parse_congr {s t : String} (halike : Text.Alike s t) : parse s = parse t := by
  rw [parse, parse, ofText?, ofText?, normalText_eq_iff.mpr halike]

/-- The name in a refusal is refused as the text was. -/
theorem parse_of_refused {e : Error} {text : String} (hrefused : parse text = .error e) :
    ∃ name, e = .unknownNetwork name ∧ parse name = .error e := by
  obtain ⟨-, rfl⟩ := parse_eq_error_iff.mp hrefused
  have hsame : parse (normalText text) = parse text :=
    parse_congr (Text.alike_lowered_trimmed text)
  exact ⟨normalText text, rfl, hsame.trans hrefused⟩

end QuorumNode.Chain.Network
