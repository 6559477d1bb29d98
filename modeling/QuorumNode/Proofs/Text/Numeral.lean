/-
The decimal numerals as a language: at most one plus sign, then one or more digits of ASCII.
The reader of numerals accepts that language and gives the exact value at any length.
-/
import Mathlib.Data.Nat.Digits.Defs
import QuorumNode.Text.Numeral

namespace QuorumNode.Text

/-- The number a run of digits writes in base ten, its last digit in the units place. -/
def decimal (digits : List Char) : Nat :=
  Nat.ofDigits 10 (digits.map fun c => c.toNat - '0'.toNat).reverse

structure IsDigits (text : List Char) (n : Nat) : Prop where
  nonempty : text ≠ []
  digit : ∀ c ∈ text, c.isDigit = true
  value : decimal text = n

/-- The numerals of value `n`.  The only sign is a plus. -/
inductive IsNumeral : List Char → Nat → Prop where
  | plain {text : List Char} {n : Nat} (hdigits : IsDigits text n) : IsNumeral text n
  | signed {text : List Char} {n : Nat} (hdigits : IsDigits text n) : IsNumeral ('+' :: text) n

/-! The reader accepts the language -/

theorem digit?_eq_some_iff {c : Char} {d : Nat} :
    digit? c = some d ↔ c.isDigit = true ∧ c.toNat - '0'.toNat = d := by
  rw [digit?, Char.isDigit_iff_toNat, Option.ite_none_right_eq_some, Option.some.injEq]
  simp only [Char.le_def, UInt32.le_iff_toNat_le, Char.toNat_val]

theorem mapM_digit?_eq_some_iff {text : List Char} {ds : List Nat} :
    text.mapM digit? = some ds ↔
      (∀ c ∈ text, c.isDigit = true) ∧ text.map (fun c => c.toNat - '0'.toNat) = ds := by
  induction text generalizing ds with
  | nil => simp
  | cons c text ih =>
      simp only [List.mapM_cons, Option.bind_eq_bind, Option.bind_eq_some_iff, ih,
        digit?_eq_some_iff, List.forall_mem_cons, List.map_cons]
      constructor
      · rintro ⟨d, ⟨hc, rfl⟩, rest, ⟨htext, rfl⟩, hds⟩
        exact ⟨⟨hc, htext⟩, Option.some.inj hds⟩
      · rintro ⟨⟨hc, htext⟩, rfl⟩
        exact ⟨_, ⟨hc, rfl⟩, _, ⟨htext, rfl⟩, rfl⟩

theorem valueOfDigits_eq (ds : List Nat) : valueOfDigits ds = Nat.ofDigits 10 ds.reverse := by
  have hstep : (fun value d => 10 * value + d) = fun value d => d + 10 * value := by
    funext value d
    exact Nat.add_comm (10 * value) d
  rw [valueOfDigits, hstep, Nat.ofDigits_eq_foldr, List.foldr_reverse]
  rfl

theorem digits?_eq_some_iff {text : List Char} {n : Nat} :
    digits? text = some n ↔ IsDigits text n := by
  rw [digits?, Option.ite_none_left_eq_some, Option.map_eq_some_iff]
  constructor
  · rintro ⟨hnonempty, ds, hds, rfl⟩
    obtain ⟨hdigit, rfl⟩ := mapM_digit?_eq_some_iff.mp hds
    exact ⟨hnonempty, hdigit, (valueOfDigits_eq _).symm⟩
  · rintro ⟨hnonempty, hdigit, rfl⟩
    exact ⟨hnonempty, _, mapM_digit?_eq_some_iff.mpr ⟨hdigit, rfl⟩, valueOfDigits_eq _⟩

theorem not_isDigits_of_head {c : Char} {rest : List Char} {n : Nat}
    (hc : c.isDigit = false) : ¬IsDigits (c :: rest) n := by
  intro hdigits
  have hdigit := hdigits.digit c List.mem_cons_self
  rw [hc] at hdigit
  contradiction

theorem numeral?_eq_some_iff {text : List Char} {n : Nat} :
    numeral? text = some n ↔ IsNumeral text n := by
  unfold numeral?
  split
  next rest =>
    rw [digits?_eq_some_iff]
    constructor
    · exact .signed
    · rintro (hdigits | hdigits)
      · exact absurd hdigits (not_isDigits_of_head (by decide))
      · exact hdigits
  next hunsigned =>
    rw [digits?_eq_some_iff]
    constructor
    · exact .plain
    · rintro (hdigits | hdigits)
      · exact hdigits
      · exact absurd rfl (hunsigned _)

theorem numeralBelow?_eq_some_iff {bound : Nat} {text : List Char} {n : Nat} :
    numeralBelow? bound text = some n ↔ IsNumeral text n ∧ n < bound := by
  rw [numeralBelow?, Option.filter_eq_some_iff, numeral?_eq_some_iff, decide_eq_true_eq]

example : numeralBelow? 256 "+007".toList = some 7 := by decide +kernel

example : numeralBelow? 256 "256".toList = none := by decide +kernel

example : numeralBelow? 256 "+".toList = none := by decide +kernel

/-- A numeral has one value. -/
theorem IsNumeral.unique {text : List Char} {m n : Nat} (hm : IsNumeral text m)
    (hn : IsNumeral text n) : m = n := by
  rw [← numeral?_eq_some_iff] at hm hn
  exact Option.some.inj (hm.symm.trans hn)

theorem IsNumeral.head {text : List Char} {n : Nat} (hnumeral : IsNumeral text n) :
    ∃ c, text.head? = some c ∧ (c = '+' ∨ c.isDigit = true) := by
  cases hnumeral with
  | plain hdigits =>
      obtain ⟨c, rest, rfl⟩ := List.exists_cons_of_ne_nil hdigits.nonempty
      exact ⟨c, rfl, Or.inr (hdigits.digit c List.mem_cons_self)⟩
  | signed hdigits => exact ⟨'+', rfl, Or.inl rfl⟩

end QuorumNode.Text
