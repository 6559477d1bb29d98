/-
Texts that are alike: what is left of them between blanks differs in the case of ASCII
letters only.  A text in normal form, trimmed and in lower case, stands for all that are
like it.
-/
import QuorumNode.Proofs.Text.Numeral
import QuorumNode.Proofs.Text.Trim

namespace QuorumNode.Text

/-- Equal but for the blanks at either end and the case of the letters of ASCII. -/
def Alike (s t : String) : Prop :=
  ∃ core other, Core s.toList core ∧ Core t.toList other ∧ List.Forall₂ CaseVariant core other

/-! The case of letters -/

theorem lowered_eq_iff (s t : String) :
    lowered s = lowered t ↔ List.Forall₂ CaseVariant s.toList t.toList := by
  rw [← sameLetters_iff, sameLetters, beq_iff_eq, lowered, lowered, String.ofList_inj]

theorem forall₂_caseVariant_trans {s t u : String}
    (hfirst : List.Forall₂ CaseVariant s.toList t.toList)
    (hlast : List.Forall₂ CaseVariant t.toList u.toList) :
    List.Forall₂ CaseVariant s.toList u.toList := by
  rw [← lowered_eq_iff] at hfirst hlast ⊢
  exact hfirst.trans hlast

theorem toNat_of_isDigit {c : Char} (hdigit : c.isDigit = true) :
    48 ≤ c.toNat ∧ c.toNat ≤ 57 := by
  rwa [Char.isDigit_iff_toNat] at hdigit

/-- What is no letter has no other case. -/
theorem CaseVariant.eq_of_toNat_lt {c d : Char} (hvariant : CaseVariant c d)
    (hc : c.toNat < 65) : c = d := by
  rcases hvariant with hsame | ⟨hupper, -⟩ | ⟨hupper, hlower⟩
  · exact hsame
  · rw [isUpper_iff] at hupper
    omega
  · rw [isUpper_iff] at hupper
    omega

theorem eq_of_forall₂_caseVariant {text other : List Char}
    (hvariant : List.Forall₂ CaseVariant text other) (htext : ∀ c ∈ text, c.toNat < 65) :
    text = other := by
  induction hvariant with
  | nil => rfl
  | cons hhead _ ih =>
      obtain ⟨hc, hrest⟩ := List.forall_mem_cons.mp htext
      rw [hhead.eq_of_toNat_lt hc, ih hrest]

/-- Signs and digits are no letters. -/
theorem IsNumeral.toNat_lt {text : List Char} {n : Nat} (hnumeral : IsNumeral text n) :
    ∀ c ∈ text, c.toNat < 65 := by
  have hdigits : ∀ {digits : List Char}, IsDigits digits n → ∀ c ∈ digits, c.toNat < 65 := by
    intro digits hdigits c hc
    have hrange := toNat_of_isDigit (hdigits.digit c hc)
    omega
  cases hnumeral with
  | plain hplain => exact hdigits hplain
  | signed hsigned => exact List.forall_mem_cons.mpr ⟨by decide, hdigits hsigned⟩

/-! Blanks have no case -/

theorem isBlank_toLower (c : Char) : isBlank c.toLower = isBlank c := by
  simp only [isBlank, blankRanges, List.any_cons, List.any_nil, toNat_toLower]
  split
  next hupper =>
    rw [Bool.eq_iff_iff]
    simp
    omega
  next => rfl

theorem alike_iff {s t : String} : Alike s t ↔ lowered (trimmed s) = lowered (trimmed t) := by
  rw [lowered_eq_iff, trimmed, trimmed, String.toList_ofList, String.toList_ofList]
  constructor
  · rintro ⟨core, other, hcore, hother, hvariant⟩
    rwa [hcore.eq_trim, hother.eq_trim] at hvariant
  · intro hvariant
    exact ⟨_, _, core_trim _, core_trim _, hvariant⟩

theorem Alike.symm {s t : String} (halike : Alike s t) : Alike t s := by
  rw [alike_iff] at halike ⊢
  exact halike.symm

theorem Alike.forall₂_trimmed {s t : String} (halike : Alike s t) :
    List.Forall₂ CaseVariant (trimmed s).toList (trimmed t).toList :=
  (lowered_eq_iff _ _).mp (alike_iff.mp halike)

/-- The core of a text stays one in lower case. -/
theorem Core.map_toLower {text core : List Char} (hcore : Core text core) :
    Core (core.map Char.toLower) (core.map Char.toLower) where
  surrounded := ⟨[], [], by simp⟩
  first := by
    intro c hc
    rw [List.head?_map, Option.map_eq_some_iff] at hc
    obtain ⟨d, hd, rfl⟩ := hc
    rw [isBlank_toLower]
    exact hcore.first d hd
  last := by
    intro c hc
    rw [List.getLast?_map, Option.map_eq_some_iff] at hc
    obtain ⟨d, hd, rfl⟩ := hc
    rw [isBlank_toLower]
    exact hcore.last d hd

theorem toLower_toLower (c : Char) : c.toLower.toLower = c.toLower := by
  have hlower : ¬(65 ≤ c.toLower.toNat ∧ c.toLower.toNat ≤ 90) := by
    rw [toNat_toLower]
    split <;> omega
  rw [← Char.toNat_inj, toNat_toLower c.toLower, if_neg hlower]

/-- A text in normal form is like the text it was made from. -/
theorem alike_lowered_trimmed (s : String) : Alike (lowered (trimmed s)) s := by
  have hself := (core_trim s.toList).map_toLower
  refine ⟨(trim s.toList).map Char.toLower, trim s.toList, ?_, core_trim s.toList, ?_⟩
  · rwa [lowered, trimmed, String.toList_ofList, String.toList_ofList]
  · rw [List.forall₂_map_left_iff, List.forall₂_same]
    intro c _
    rw [caseVariant_iff, toLower_toLower]

/-! Looking a text up -/

/-- If no more than one choice has a property, a search for it finds that choice. -/
theorem find?_eq_some_iff_of_unique {α : Type} {choices : List α} {p : α → Bool} {choice : α}
    (hmem : choice ∈ choices)
    (hunique : ∀ other, p choice = true → p other = true → choice = other) :
    choices.find? p = some choice ↔ p choice = true := by
  constructor
  · exact List.find?_some
  · intro hchoice
    cases hfound : choices.find? p with
    | none => exact absurd hchoice (List.find?_eq_none.mp hfound choice hmem)
    | some other => rw [hunique other hchoice (List.find?_some hfound)]

end QuorumNode.Text
