/-
What a reader of text does not look at: the blanks at either end, and the case of the letters
of ASCII.
-/
import Mathlib.Data.List.Forall2
import Mathlib.Data.List.TakeWhile
import QuorumNode.Text.Blank

namespace QuorumNode.Text

/-! Blanks at either end -/

/-- `core` is the text without the blanks at either end. -/
structure Core (text core : List Char) : Prop where
  surrounded : ∃ lead trail, text = lead ++ core ++ trail ∧
    (∀ c ∈ lead, isBlank c = true) ∧ ∀ c ∈ trail, isBlank c = true
  first : ∀ c, core.head? = some c → isBlank c = false
  last : ∀ c, core.getLast? = some c → isBlank c = false

theorem dropWhile_eq_self {p : Char → Bool} {text : List Char}
    (hfirst : ∀ c, text.head? = some c → p c = false) : text.dropWhile p = text := by
  cases text with
  | nil => rfl
  | cons c rest => rw [List.dropWhile_cons_of_neg (by simp [hfirst c rfl])]

theorem eq_false_of_head?_dropWhile {p : Char → Bool} {text : List Char} {c : Char}
    (hhead : (text.dropWhile p).head? = some c) : p c = false := by
  have hnot := List.head?_dropWhile_not p text
  rwa [hhead] at hnot

theorem core_trim (text : List Char) : Core text (trim text) := by
  have hkept : trim text ++ ((text.dropWhile isBlank).reverse.takeWhile isBlank).reverse =
      text.dropWhile isBlank := by
    rw [trim, ← List.reverse_append, List.takeWhile_append_dropWhile, List.reverse_reverse]
  refine ⟨⟨text.takeWhile isBlank, ((text.dropWhile isBlank).reverse.takeWhile isBlank).reverse,
    ?_, ?_, ?_⟩, ?_, ?_⟩
  · rw [List.append_assoc, hkept, List.takeWhile_append_dropWhile]
  · intro c hc
    exact List.mem_takeWhile_imp hc
  · intro c hc
    exact List.mem_takeWhile_imp (List.mem_reverse.mp hc)
  · intro c hc
    have hhead : (text.dropWhile isBlank).head? = some c := by
      rw [← hkept, List.head?_append, hc, Option.some_or]
    exact eq_false_of_head?_dropWhile hhead
  · intro c hc
    rw [trim, List.getLast?_reverse] at hc
    exact eq_false_of_head?_dropWhile hc

/-- There is one core, and trimming finds it. -/
theorem Core.eq_trim {text core : List Char} (hcore : Core text core) : core = trim text := by
  obtain ⟨⟨lead, trail, rfl, hlead, htrail⟩, hfirst, hlast⟩ := hcore
  have hdropped : (lead ++ core ++ trail).dropWhile isBlank = (core ++ trail).dropWhile isBlank := by
    rw [List.append_assoc, List.dropWhile_append_of_pos hlead]
  have hreversed : (trail.reverse ++ core.reverse).dropWhile isBlank = core.reverse := by
    rw [List.dropWhile_append_of_pos fun c hc => htrail c (List.mem_reverse.mp hc)]
    apply dropWhile_eq_self
    intro c hc
    rw [List.head?_reverse] at hc
    exact hlast c hc
  cases core with
  | nil =>
      have hnone : trail.dropWhile isBlank = [] := List.dropWhile_eq_nil_iff.mpr htrail
      rw [trim, hdropped, List.nil_append, hnone]
      rfl
  | cons c rest =>
      have hself : (c :: rest ++ trail).dropWhile isBlank = c :: rest ++ trail :=
        dropWhile_eq_self hfirst
      rw [trim, hdropped, hself, List.reverse_append, hreversed, List.reverse_reverse]

theorem core_iff {text core : List Char} : Core text core ↔ core = trim text := by
  constructor
  · exact Core.eq_trim
  · rintro rfl
    exact core_trim text

example : trimmed "\u00a0 main\u3000\n" = "main" := by decide +kernel

example : trimmed "a b" = "a b" := by decide +kernel

/-! The case of letters -/

/-- Equal, or the two cases of one letter of ASCII. -/
def CaseVariant (c d : Char) : Prop :=
  c = d ∨ (c.isUpper = true ∧ d.toNat = c.toNat + 32) ∨
    (d.isUpper = true ∧ c.toNat = d.toNat + 32)

theorem isUpper_iff (c : Char) : c.isUpper = true ↔ 65 ≤ c.toNat ∧ c.toNat ≤ 90 := by
  unfold Char.isUpper
  simp [UInt32.le_iff_toNat_le]

theorem toNat_toLower (c : Char) :
    c.toLower.toNat = if 65 ≤ c.toNat ∧ c.toNat ≤ 90 then c.toNat + 32 else c.toNat := by
  have hA : 'A'.toNat = 65 := rfl
  have hZ : 'Z'.toNat = 90 := rfl
  unfold Char.toLower
  split
  next hupper =>
    simp only [UInt32.le_iff_toNat_le, Char.toNat_val, ge_iff_le, hA, hZ] at hupper
    rw [if_pos hupper, ← Char.toNat_val, UInt32.toNat_add]
    simp only [Char.toNat_val, Char.reduceVal, UInt32.reduceSub, UInt32.reduceToNat]
    omega
  next hother =>
    rw [if_neg]
    simpa [UInt32.le_iff_toNat_le] using hother

theorem caseVariant_iff (c d : Char) : CaseVariant c d ↔ c.toLower = d.toLower := by
  have hc := isUpper_iff c
  have hd := isUpper_iff d
  simp only [CaseVariant, ← Char.toNat_inj, toNat_toLower]
  split <;> split <;> simp_all <;> omega

theorem sameLetters_iff (s t : String) :
    sameLetters s t = true ↔ List.Forall₂ CaseVariant s.toList t.toList := by
  have hlowered : CaseVariant = fun c d => c.toLower = d.toLower := by
    funext c d
    exact propext (caseVariant_iff c d)
  rw [sameLetters, beq_iff_eq, ← List.forall₂_eq_eq_eq, List.forall₂_map_left_iff,
    List.forall₂_map_right_iff, hlowered]

end QuorumNode.Text
