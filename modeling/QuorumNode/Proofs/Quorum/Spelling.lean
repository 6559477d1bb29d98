/-
The texts that mean a kind: its name in letters of either case, or a numeral of its number,
between blanks.  No text means two kinds, so the order in which a parser tries the two
spellings does not show.
-/
import QuorumNode.Proofs.Text.Alike
import QuorumNode.Quorum.Params

namespace QuorumNode.Quorum

open QuorumNode.Text (CaseVariant IsNumeral find?_eq_some_iff_of_unique)

/-- `text` is `kind.name` up to case. -/
def Kind.Named (kind : Kind) (text : String) : Prop :=
  List.Forall₂ CaseVariant kind.name.toList text.toList

/-- The two ways to write a kind, once blanks are taken off. -/
inductive Kind.Spells (kind : Kind) (text : String) : Prop where
  | name (hname : kind.Named text)
  | number (hnumeral : IsNumeral text.toList kind.id)

namespace Kind

theorem id_lt (kind : Kind) : kind.id < 256 := by
  cases kind <;> decide

theorem ofId?_eq_some_iff {n : Nat} {kind : Kind} : ofId? n = some kind ↔ kind.id = n := by
  have hunique : ∀ other : Kind, (kind.id == n) = true → (other.id == n) = true →
      kind = other := by
    intro other hkind hother
    rw [beq_iff_eq] at hkind hother
    exact id_injective (hkind.trans hother.symm)
  rw [ofId?, find?_eq_some_iff_of_unique (mem_all kind) hunique, beq_iff_eq]

/-! Names -/

theorem named_iff {kind : Kind} {text : String} :
    kind.Named text ↔ Text.sameLetters kind.name text = true :=
  (Text.sameLetters_iff kind.name text).symm

theorem eq_of_sameLetters_name {kind other : Kind} :
    Text.sameLetters kind.name other.name = true → kind = other := by
  cases kind <;> cases other <;> decide +kernel

theorem Named.unique {kind other : Kind} {text : String} (hkind : kind.Named text)
    (hother : other.Named text) : kind = other := by
  rw [named_iff, Text.sameLetters, beq_iff_eq] at hkind hother
  apply eq_of_sameLetters_name
  rw [Text.sameLetters, beq_iff_eq, hkind, hother]

/-- Every name starts with the same letter. -/
theorem Named.head {kind : Kind} {text : String} (hname : kind.Named text) :
    ∃ c, text.toList.head? = some c ∧ (c = 'l' ∨ c = 'L') := by
  obtain ⟨rest, hrest⟩ : ∃ rest, kind.name.toList = 'l' :: rest := by
    cases kind <;> exact ⟨_, rfl⟩
  rw [Named, hrest, List.forall₂_cons_left_iff] at hname
  obtain ⟨c, tail, hvariant, -, htext⟩ := hname
  refine ⟨c, by rw [htext, List.head?_cons], ?_⟩
  rcases hvariant with hsame | ⟨hupper, -⟩ | ⟨-, hlower⟩
  · exact Or.inl hsame.symm
  · exact absurd hupper (by decide)
  · have hL : c.toNat = 'L'.toNat := Nat.add_right_cancel hlower.symm
    exact Or.inr (Char.toNat_inj.mp hL)

theorem Named.not_isNumeral {kind : Kind} {text : String} (hname : kind.Named text) (n : Nat) :
    ¬IsNumeral text.toList n := by
  intro hnumeral
  obtain ⟨c, hc, hletter⟩ := hname.head
  obtain ⟨d, hd, hdigit⟩ := hnumeral.head
  obtain rfl : c = d := Option.some.inj (hc.symm.trans hd)
  rcases hletter with rfl | rfl <;> exact absurd hdigit (by decide)

/-! Text of either spelling -/

theorem find?_named_eq_some_iff {kind : Kind} {text : String} :
    (all.find? fun k => Text.sameLetters k.name text) = some kind ↔ kind.Named text := by
  rw [named_iff]
  apply find?_eq_some_iff_of_unique (mem_all kind)
  intro other hkind hother
  exact (named_iff.mpr hkind).unique (named_iff.mpr hother)

theorem ofText?_eq_some_iff {kind : Kind} {text : String} :
    ofText? text = some kind ↔ kind.Spells text := by
  unfold ofText?
  split
  next n hread =>
    obtain ⟨hnumeral, hlt⟩ := Text.numeralBelow?_eq_some_iff.mp hread
    rw [ofId?_eq_some_iff]
    constructor
    · rintro rfl
      exact .number hnumeral
    · rintro (hname | hid)
      · exact absurd hnumeral (hname.not_isNumeral n)
      · exact hid.unique hnumeral
  next hnone =>
    rw [find?_named_eq_some_iff]
    constructor
    · exact .name
    · rintro (hname | hid)
      · exact hname
      · rw [Text.numeralBelow?_eq_some_iff.mpr ⟨hid, kind.id_lt⟩] at hnone
        cases hnone

example : ofText? "LLMQ_400_85" = some llmq400_85 := by decide +kernel

example : ofText? "+0100" = some llmq5_60 := by decide +kernel

theorem Spells.unique {kind other : Kind} {text : String} (hkind : kind.Spells text)
    (hother : other.Spells text) : kind = other := by
  rw [← ofText?_eq_some_iff] at hkind hother
  exact Option.some.inj (hkind.symm.trans hother)

/-- Digits have no case, so a text that is spelled in other letters means the same kind. -/
theorem Spells.of_caseVariant {kind : Kind} {text other : String} (hspells : kind.Spells text)
    (hvariant : List.Forall₂ CaseVariant text.toList other.toList) : kind.Spells other := by
  rcases hspells with hname | hnumeral
  · exact .name (Text.forall₂_caseVariant_trans hname hvariant)
  · refine .number ?_
    rwa [← Text.eq_of_forall₂_caseVariant hvariant hnumeral.toNat_lt]

theorem spells_congr {kind : Kind} {s t : String} (halike : Text.Alike s t) :
    kind.Spells (Text.trimmed s) ↔ kind.Spells (Text.trimmed t) :=
  ⟨fun hspells => hspells.of_caseVariant halike.forall₂_trimmed,
    fun hspells => hspells.of_caseVariant halike.symm.forall₂_trimmed⟩

theorem parse_eq_ok_iff {kind : Kind} {text : String} :
    parse text = .ok kind ↔ kind.Spells (Text.trimmed text) := by
  rw [← ofText?_eq_some_iff, parse]
  split <;> simp_all

theorem parse_eq_error_iff {error : Error} {text : String} :
    parse text = .error error ↔
      (∀ kind : Kind, ¬kind.Spells (Text.trimmed text)) ∧
        error = .unknownKind (Text.trimmed text) := by
  simp only [← ofText?_eq_some_iff, parse]
  split
  next kind hkind =>
    constructor
    · intro herror
      cases herror
    · rintro ⟨hnone, -⟩
      exact absurd hkind (hnone kind)
  next hnone =>
    constructor
    · intro herror
      cases herror
      refine ⟨?_, rfl⟩
      intro kind hkind
      rw [hnone] at hkind
      cases hkind
    · rintro ⟨-, rfl⟩
      rfl

theorem parse_of_numeral_large {text : String} {n : Nat}
    (hnumeral : IsNumeral (Text.trimmed text).toList n) (hlarge : 255 < n) :
    parse text = .error (.unknownKind (Text.trimmed text)) := by
  refine parse_eq_error_iff.mpr ⟨?_, rfl⟩
  rintro kind (hname | hid)
  · exact hname.not_isNumeral n hnumeral
  · have hlt := kind.id_lt
    rw [hid.unique hnumeral] at hlt
    omega

theorem Spells.head_ne_minus {kind : Kind} {text : String} (hspells : kind.Spells text) :
    text.toList.head? ≠ some '-' := by
  intro hminus
  rcases hspells with hname | hnumeral
  · obtain ⟨c, hc, hletter⟩ := hname.head
    obtain rfl : c = '-' := Option.some.inj (hc.symm.trans hminus)
    exact absurd hletter (by decide)
  · obtain ⟨c, hc, hdigit⟩ := hnumeral.head
    obtain rfl : c = '-' := Option.some.inj (hc.symm.trans hminus)
    exact absurd hdigit (by decide)

/-- A text means the kind whose name, in either case, or whose number it is between blanks, and
no other.  Any other text is refused with the blanks taken off. -/
theorem spellings_of_parse :
    (∀ text : String, ∃ core : String,
      (∀ other : String, Text.Core text.toList other.toList ↔ other = core) ∧
      (∀ kind, parse text = .ok kind ↔ kind.Spells core) ∧
      (∀ error, parse text = .error error ↔
        (∀ kind : Kind, ¬kind.Spells core) ∧ error = .unknownKind core) ∧
      (∀ kind other : Kind, kind.Spells core → other.Spells core → kind = other) ∧
      (∀ n, IsNumeral core.toList n → 255 < n → parse text = .error (.unknownKind core)) ∧
      (core.toList.head? = some '-' → parse text = .error (.unknownKind core))) ∧
    ∀ kind : Kind, parse kind.name = .ok kind ∧ parse (toString kind.id) = .ok kind := by
  constructor
  · intro text
    refine ⟨Text.trimmed text, ?_, fun kind => parse_eq_ok_iff, fun error => parse_eq_error_iff,
      fun kind other => Spells.unique, fun n => parse_of_numeral_large, ?_⟩
    · intro other
      rw [Text.core_iff, Text.trimmed, ← String.toList_inj, String.toList_ofList]
    · intro hminus
      refine parse_eq_error_iff.mpr ⟨?_, rfl⟩
      intro kind hspells
      exact hspells.head_ne_minus hminus
  · intro kind
    cases kind <;> decide +kernel

end Kind

end QuorumNode.Quorum
