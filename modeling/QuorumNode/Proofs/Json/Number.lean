/-
Number literals as a language: the texts the scanner follows from part to part.  Every integer
has a literal, the one it is written as.
-/
import QuorumNode.Json.Token
import QuorumNode.Proofs.Text.Numeral

namespace QuorumNode.Json

open QuorumNode.Data

namespace NumberPart

/-- `text` begins a literal and ends in `part`. -/
inductive Spells : NumberPart → List Char → Prop where
  | sign : Spells sign ['-']
  | zero : Spells zero ['0']
  | whole {c : Char} (hdigit : c.isDigit = true) (hc : c ≠ '0') : Spells whole [c]
  | next {part later : NumberPart} {text : List Char} {c : Char} (hpart : Spells part text)
      (hlater : part.next? c = some later) : Spells later (text ++ [c])

/-- `v` is what a whole literal stands for. -/
def IsLiteral (v : Value) : Prop :=
  ∃ part text, Spells part text ∧ part.complete = true ∧ part.value text = v

theorem value_eq (part : NumberPart) (text : List Char) :
    (∃ n, part.value text = .int n) ∨ part.value text = .real (String.ofList text) := by
  simp only [value]
  split
  next n _ => exact Or.inl ⟨n, rfl⟩
  next => exact Or.inr rfl

/-! Integers -/

theorem value_of_isDigits {part : NumberPart} {text : List Char} {n : Nat}
    (hpart : part = .zero ∨ part = .whole) (hdigits : Text.IsDigits text n) :
    part.value text = .int n := by
  have hsign : ∀ rest, text ≠ '-' :: rest := by
    rintro rest rfl
    exact Text.not_isDigits_of_head (by decide) hdigits
  have hexact : (Text.digits? text).map Int.ofNat = some (n : Int) := by
    rw [Text.digits?_eq_some_iff.mpr hdigits]
    rfl
  simp only [value, if_pos hpart]
  split
  next m heq =>
    rw [hexact] at heq
    rw [Option.some.inj heq]
  next heq =>
    rw [hexact] at heq
    contradiction

theorem value_of_minus {text : List Char} {n : Nat} (hdigits : Text.IsDigits text n)
    (hn : n ≠ 0) : whole.value ('-' :: text) = .int (-n) := by
  have hvalue := Text.digits?_eq_some_iff.mpr hdigits
  simp only [value, or_true, if_true, hvalue, Option.bind_some, if_neg hn]

theorem isDigit_digitChar {d : Nat} (hd : d < 10) : (Nat.digitChar d).isDigit = true := by
  rw [Char.isDigit_iff_toNat, Nat.toNat_digitChar_of_lt_ten hd]
  have hnine : '9'.toNat = 57 := rfl
  exact ⟨Nat.le_add_right _ _, by omega⟩

theorem digitChar_ne_zero {d : Nat} (hpos : 0 < d) (hd : d < 10) : Nat.digitChar d ≠ '0' := by
  intro hzero
  have htoNat := Nat.toNat_digitChar_of_lt_ten hd
  rw [hzero] at htoNat
  have hchar : '0'.toNat = 48 := rfl
  omega

/-- After `lead`, the digits of a positive number are the rest of a whole number. -/
theorem spells_toDigits {lead : List Char}
    (hlead : ∀ d, 0 < d → d < 10 → Spells whole (lead ++ [Nat.digitChar d])) (n : Nat)
    (hn : 0 < n) : Spells whole (lead ++ Nat.toDigits 10 n) := by
  induction n using Nat.strongRecOn with
  | ind n ih =>
      rw [Nat.toDigits_eq_if (by decide)]
      split
      next hsmall => exact hlead n hn hsmall
      next hlarge =>
        have hrest : Spells whole (lead ++ Nat.toDigits 10 (n / 10)) :=
          ih (n / 10) (by omega) (by omega)
        rw [← List.append_assoc]
        exact hrest.next (if_pos (isDigit_digitChar (Nat.mod_lt n (by decide))))

theorem decimal_append_singleton (text : List Char) (c : Char) :
    Text.decimal (text ++ [c]) = 10 * Text.decimal text + (c.toNat - '0'.toNat) := by
  rw [Text.decimal, List.map_append, List.map_singleton, List.reverse_append,
    List.reverse_singleton, List.singleton_append, Nat.ofDigits_cons, Text.decimal]
  exact Nat.add_comm _ _

theorem decimal_toDigits (n : Nat) : Text.decimal (Nat.toDigits 10 n) = n := by
  have hdigit : ∀ d, d < 10 → (Nat.digitChar d).toNat - '0'.toNat = d := by
    intro d hd
    rw [Nat.toNat_digitChar_of_lt_ten hd]
    exact Nat.add_sub_cancel_left _ _
  induction n using Nat.strongRecOn with
  | ind n ih =>
      rw [Nat.toDigits_eq_if (by decide)]
      split
      next hsmall =>
        rw [← List.nil_append [_], decimal_append_singleton, hdigit n hsmall]
        exact Nat.zero_add n
      next hlarge =>
        rw [decimal_append_singleton, ih (n / 10) (by omega),
          hdigit _ (Nat.mod_lt n (by decide))]
        exact Nat.div_add_mod n 10

theorem isDigits_toDigits (n : Nat) : Text.IsDigits (Nat.toDigits 10 n) n where
  nonempty := Nat.toDigits_ne_nil
  digit _ hc := Nat.isDigit_of_mem_toDigits (by decide) (by decide) hc
  value := decimal_toDigits n

/-- What an integer is written as is a literal of it. -/
theorem exists_spells_int (n : Int) :
    ∃ part, Spells part (toString n).toList ∧ part.complete = true ∧
      part.value (toString n).toList = .int n := by
  rw [Int.toString_eq_repr]
  cases n with
  | ofNat n =>
      have hrepr : (Int.ofNat n).repr.toList = Nat.toDigits 10 n := Nat.toList_repr
      rw [hrepr]
      rcases Nat.eq_zero_or_pos n with rfl | hpos
      · exact ⟨zero, .zero, rfl, value_of_isDigits (Or.inl rfl) (isDigits_toDigits 0)⟩
      · have hspells : Spells whole ([] ++ Nat.toDigits 10 n) :=
          spells_toDigits
            (fun d hd hlt => .whole (isDigit_digitChar hlt) (digitChar_ne_zero hd hlt)) n hpos
        exact ⟨whole, hspells, rfl, value_of_isDigits (Or.inr rfl) (isDigits_toDigits n)⟩
  | negSucc n =>
      have hrepr : (Int.negSucc n).repr.toList = '-' :: Nat.toDigits 10 (n + 1) := by
        rw [Int.repr, String.toList_append, Nat.toList_repr]
        rfl
      have hlead : ∀ d, 0 < d → d < 10 → Spells whole (['-'] ++ [Nat.digitChar d]) := by
        intro d hd hlt
        refine Spells.sign.next ?_
        rw [next?, if_neg (digitChar_ne_zero hd hlt), if_pos (isDigit_digitChar hlt)]
      rw [hrepr]
      exact ⟨whole, spells_toDigits hlead (n + 1) (Nat.succ_pos n), rfl,
        value_of_minus (isDigits_toDigits (n + 1)) (Nat.succ_ne_zero n)⟩

end NumberPart

end QuorumNode.Json
