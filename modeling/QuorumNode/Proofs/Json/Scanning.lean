/-
What the scanner takes a written value for.  A number or a word ends only when the next mark,
or the end of the text, shows that it does, so a text is followed up to there.
-/
import QuorumNode.Json.Writer
import QuorumNode.Proofs.Json.Number

namespace QuorumNode.Json

open QuorumNode.Data

/-! Following a text -/

namespace Mode

/-- From `mode`, the characters lead to `last` and complete `tokens` on the way. -/
inductive Reads : Mode → List Char → Mode → List Token → Prop where
  | nil (mode : Mode) : Reads mode [] mode []
  | cons {mode next last : Mode} {c : Char} {chars : List Char} {tokens rest : List Token}
      (hstep : mode.step? c = some (next, tokens)) (hrest : Reads next chars last rest) :
      Reads mode (c :: chars) last (tokens ++ rest)

theorem Reads.append {mode middle last : Mode} {chars more : List Char}
    {tokens rest : List Token} (hfirst : Reads mode chars middle tokens)
    (hrest : Reads middle more last rest) :
    Reads mode (chars ++ more) last (tokens ++ rest) := by
  induction hfirst with
  | nil => exact hrest
  | cons hstep _ ih =>
      rw [List.append_assoc]
      exact .cons hstep (ih hrest)

/-- A character that completes no token. -/
theorem Reads.step {mode next last : Mode} {c : Char} {chars : List Char} {tokens : List Token}
    (hstep : mode.step? c = some (next, [])) (hrest : Reads next chars last tokens) :
    Reads mode (c :: chars) last tokens :=
  .cons hstep hrest

theorem foldlM_step?_eq_some_iff {mode last : Mode} {chars : List Char}
    {done tokens : List Token} :
    chars.foldlM Scan.step? ⟨mode, done⟩ = some ⟨last, tokens⟩ ↔
      ∃ more, Reads mode chars last more ∧ tokens = more.reverse ++ done := by
  induction chars generalizing mode done with
  | nil =>
      constructor
      · rintro ⟨⟩
        exact ⟨[], .nil _, rfl⟩
      · rintro ⟨more, hreads, rfl⟩
        cases hreads
        rfl
  | cons c chars ih =>
      have hfold : (c :: chars).foldlM Scan.step? ⟨mode, done⟩ =
          (mode.step? c).bind fun after =>
            chars.foldlM Scan.step? ⟨after.1, after.2.reverse ++ done⟩ := by
        rw [List.foldlM_cons, Scan.step?]
        cases mode.step? c <;> rfl
      rw [hfold, Option.bind_eq_some_iff]
      constructor
      · rintro ⟨⟨next, first⟩, hstep, hrest⟩
        obtain ⟨more, hreads, rfl⟩ := ih.mp hrest
        exact ⟨first ++ more, .cons hstep hreads, by simp⟩
      · rintro ⟨more, hreads, rfl⟩
        cases hreads with
        | cons hstep hrest => exact ⟨_, hstep, ih.mpr ⟨_, hrest, by simp⟩⟩

end Mode

theorem tokens?_eq_some_iff {chars : List Char} {tokens : List Token} :
    tokens? chars = some tokens ↔
      ∃ mode first last, Mode.Reads .between chars mode first ∧ mode.close? = some last ∧
        tokens = first ++ last := by
  simp only [tokens?, Option.bind_eq_bind, Option.bind_eq_some_iff, Option.pure_def,
    Option.some.injEq]
  constructor
  · rintro ⟨⟨mode, done⟩, hfold, last, hclose, rfl⟩
    obtain ⟨first, hreads, rfl⟩ := Mode.foldlM_step?_eq_some_iff.mp hfold
    exact ⟨mode, first, last, hreads, hclose, by simp⟩
  · rintro ⟨mode, first, last, hreads, hclose, rfl⟩
    exact ⟨_, Mode.foldlM_step?_eq_some_iff.mpr ⟨first, hreads, rfl⟩, last, hclose, by simp⟩

/-! Where a token ends -/

/-- The characters that are tokens by themselves. -/
def marks : List (Char × Token) :=
  [('[', .openList), (']', .closeList), ('\x7b', .openObject), ('\x7d', .closeObject),
    (',', .comma), (':', .colon)]

namespace Mode

theorem start?_mark : ∀ mark ∈ marks, start? mark.1 = some (between, [mark.2]) := by
  simp [marks, start?]

theorem not_letter_mark : ∀ mark ∈ marks, ¬('a' ≤ mark.1 ∧ mark.1 ≤ 'z') := by
  decide

theorem next?_mark {part : NumberPart} (hpart : part.complete = true) :
    ∀ mark ∈ marks, part.next? mark.1 = none := by
  revert hpart
  cases part <;> decide

/-- The text may end here with `pending`, and so may the token under way before any mark. -/
structure Ends (mode : Mode) (pending : List Token) : Prop where
  close : mode.close? = some pending
  mark : ∀ mark ∈ marks, mode.step? mark.1 = some (between, pending ++ [mark.2])

theorem restart?_mark {mode : Mode} {pending : List Token} (hclose : mode.close? = some pending)
    {mark : Char × Token} (hmark : mark ∈ marks) :
    mode.restart? mark.1 = some (between, pending ++ [mark.2]) := by
  rw [restart?, hclose, start?_mark mark hmark]
  rfl

theorem ends_between : Ends between [] where
  close := rfl
  mark := start?_mark

theorem ends_word {letters : List Char} {token : Token}
    (hword : wordToken? letters.reverse = some token) : Ends (word letters) [token] := by
  have hclose : (word letters).close? = some [token] := by
    rw [close?, hword]
    rfl
  refine ⟨hclose, ?_⟩
  intro mark hmark
  rw [step?, if_neg (not_letter_mark mark hmark)]
  exact restart?_mark hclose hmark

theorem ends_number {part : NumberPart} {text : List Char} (hpart : part.complete = true) :
    Ends (number part text.reverse) [.literal (part.value text)] := by
  have hclose : (number part text.reverse).close? = some [.literal (part.value text)] := by
    rw [close?, if_pos hpart, List.reverse_reverse]
  refine ⟨hclose, ?_⟩
  intro mark hmark
  rw [step?, next?_mark hpart mark hmark]
  exact restart?_mark hclose hmark

end Mode

/-- The scanner takes `text` for `tokens`, wherever it may end. -/
def Writes (text : List Char) (tokens : List Token) : Prop :=
  ∃ mode first pending, Mode.Reads .between text mode first ∧ mode.Ends pending ∧
    tokens = first ++ pending

theorem Writes.tokens? {text : List Char} {tokens : List Token} (htext : Writes text tokens) :
    tokens? text = some tokens := by
  obtain ⟨mode, first, pending, hreads, hends, htokens⟩ := htext
  exact tokens?_eq_some_iff.mpr ⟨mode, first, pending, hreads, hends.close, htokens⟩

theorem writes_of_reads {text : List Char} {tokens : List Token}
    (hreads : Mode.Reads .between text .between tokens) : Writes text tokens :=
  ⟨.between, tokens, [], hreads, Mode.ends_between, by rw [List.append_nil]⟩

theorem Writes.after_reads {text rest : List Char} {tokens more : List Token}
    (hreads : Mode.Reads .between text .between tokens) (hrest : Writes rest more) :
    Writes (text ++ rest) (tokens ++ more) := by
  obtain ⟨mode, first, pending, hfirst, hends, rfl⟩ := hrest
  exact ⟨mode, tokens ++ first, pending, hreads.append hfirst, hends, by rw [List.append_assoc]⟩

theorem reads_mark {mark : Char × Token} (hmark : mark ∈ marks) :
    Mode.Reads .between [mark.1] .between [mark.2] :=
  .cons (Mode.ends_between.mark mark hmark) (.nil _)

theorem Writes.append_mark {text : List Char} {tokens : List Token} {mark : Char × Token}
    (htext : Writes text tokens) (hmark : mark ∈ marks) :
    Mode.Reads .between (text ++ [mark.1]) .between (tokens ++ [mark.2]) := by
  obtain ⟨mode, first, pending, hreads, hends, rfl⟩ := htext
  rw [List.append_assoc]
  refine hreads.append ?_
  rw [← List.append_nil (pending ++ [mark.2])]
  exact .cons (hends.mark mark hmark) (.nil _)

/-- Texts with commas between them, up to the mark that closes the row. -/
theorem reads_separated {α : Type} {text : α → String} {tokens : α → List Token}
    {mark : Char × Token} (hmark : mark ∈ marks) {items : List α}
    (hitems : ∀ item ∈ items, Writes (text item).toList (tokens item)) :
    Mode.Reads .between ((",".intercalate (items.map text)).toList ++ [mark.1]) .between
      ([.comma].intercalate (items.map tokens) ++ [mark.2]) := by
  have hcomma : (',', Token.comma) ∈ marks := by simp [marks]
  induction items with
  | nil => exact reads_mark hmark
  | cons item rest ih =>
      obtain ⟨hitem, hrest⟩ := List.forall_mem_cons.mp hitems
      cases rest with
      | nil =>
          simp only [List.map_cons, List.map_nil, String.intercalate_singleton,
            List.intercalate_singleton]
          exact hitem.append_mark hmark
      | cons other rest =>
          have hfirst := (hitem.append_mark hcomma).append (ih hrest)
          simpa using hfirst

theorem writes_enclosed {α : Type} {text : α → String} {tokens : α → List Token}
    {opening closing : Char × Token} (hopen : opening ∈ marks) (hclose : closing ∈ marks)
    {items : List α} (hitems : ∀ item ∈ items, Writes (text item).toList (tokens item)) :
    Writes (opening.1 :: ((",".intercalate (items.map text)).toList ++ [closing.1]))
      (opening.2 :: ([.comma].intercalate (items.map tokens) ++ [closing.2])) :=
  writes_of_reads ((reads_mark hopen).append (reads_separated hclose hitems))

/-! Strings -/

theorem hexDigit?_digitChar {d : Nat} (hd : d < 16) :
    Text.hexDigit? (Nat.digitChar d) = some d := by
  revert d
  decide

theorem ofCode_of_control {c : Char} (hcontrol : c.toNat < 0x20) :
    TextUnit.ofCode (16 * (c.toNat / 16) + c.toNat % 16) = .char c := by
  rw [Nat.div_add_mod, TextUnit.ofCode, if_neg (by omega), if_neg (by omega), Char.ofNat_toNat]

theorem reads_escape {c letter : Char} (units : List TextUnit)
    (hunit : escapeUnit? letter = some (.char c)) (hletter : letter ≠ 'u') :
    Mode.Reads (.text units) ['\\', letter] (.text (.char c :: units)) [] := by
  have hescape : (Mode.escape units).step? letter = some (.text (.char c :: units), []) := by
    rw [Mode.step?, if_neg hletter, hunit]
    rfl
  exact .step rfl (.step hescape (.nil _))

theorem reads_control {c : Char} (units : List TextUnit) (hcontrol : c.toNat < 0x20) :
    Mode.Reads (.text units)
      ['\\', 'u', '0', '0', Nat.digitChar (c.toNat / 16), Nat.digitChar (c.toNat % 16)]
      (.text (.char c :: units)) [] := by
  have hhigh : Text.hexDigit? (Nat.digitChar (c.toNat / 16)) = some (c.toNat / 16) :=
    hexDigit?_digitChar (by omega)
  have hlow : Text.hexDigit? (Nat.digitChar (c.toNat % 16)) = some (c.toNat % 16) :=
    hexDigit?_digitChar (by omega)
  have hthird : (Mode.code units 2 0).step? (Nat.digitChar (c.toNat / 16)) =
      some (.code units 3 (c.toNat / 16), []) := by
    simp [Mode.step?, hhigh]
  have hfourth : (Mode.code units 3 (c.toNat / 16)).step? (Nat.digitChar (c.toNat % 16)) =
      some (.text (.char c :: units), []) := by
    simp [Mode.step?, hlow, ofCode_of_control hcontrol]
  have hlead : Mode.Reads (.text units) ['\\', 'u', '0', '0'] (.code units 2 0) [] :=
    .step rfl (.step rfl (.step rfl (.step rfl (.nil _))))
  exact hlead.append (.step hthird (.step hfourth (.nil _)))

theorem reads_escaped (c : Char) (units : List TextUnit) :
    Mode.Reads (.text units) (escaped c).toList (.text (.char c :: units)) [] := by
  unfold escaped
  split
  next => exact reads_escape units rfl (by decide)
  next => exact reads_escape units rfl (by decide)
  next => exact reads_escape units rfl (by decide)
  next => exact reads_escape units rfl (by decide)
  next => exact reads_escape units rfl (by decide)
  next hquote hslash _ _ _ =>
    split
    next hcontrol =>
      rw [String.toList_ofList]
      exact reads_control units hcontrol
    next hplain =>
      rw [Char.toString_eq_singleton, String.toList_singleton]
      refine .step ?_ (.nil _)
      rw [Mode.step?, if_neg hquote, if_neg hslash, if_neg hplain]

theorem reads_flatMap_escaped (chars : List Char) (units : List TextUnit) :
    Mode.Reads (.text units) (chars.flatMap fun c => (escaped c).toList)
      (.text ((chars.map .char).reverse ++ units)) [] := by
  induction chars generalizing units with
  | nil => exact .nil _
  | cons c chars ih =>
      rw [List.flatMap_cons, List.map_cons, List.reverse_cons, List.append_assoc]
      exact (reads_escaped c units).append (ih (.char c :: units))

theorem toList_quoted (s : String) :
    (quoted s).toList = '"' :: (s.toList.flatMap (fun c => (escaped c).toList) ++ ['"']) := by
  have hbody : ∀ (chars : List Char) (written : String),
      (chars.foldl (fun written c => written ++ escaped c) written).toList =
        written.toList ++ chars.flatMap fun c => (escaped c).toList := by
    intro chars
    induction chars with
    | nil => simp
    | cons c chars ih =>
        intro written
        rw [List.foldl_cons, ih, String.toList_append, List.flatMap_cons, List.append_assoc]
  rw [quoted, String.toList_append, hbody]
  rfl

theorem chars?_map_char (chars : List Char) :
    TextUnit.chars? (chars.map .char) = some chars := by
  induction chars with
  | nil => rfl
  | cons c chars ih => rw [List.map_cons, TextUnit.chars?, ih, Option.map_some]

theorem reads_quotedContent (content : Option String) :
    Mode.Reads .between (quotedContent content).toList .between [.text content] := by
  cases content with
  | none =>
      have hhalf : Mode.Reads (.text []) "\\ud800".toList (.text [.high 0xd800]) [] :=
        .step rfl (.step rfl (.step rfl (.step rfl (.step rfl (.step rfl (.nil _))))))
      have hclose : (Mode.text [.high 0xd800]).step? '"' = some (.between, [.text none]) := rfl
      exact .step rfl (hhalf.append (.cons hclose (.nil _)))
  | some s =>
      have hclose : (Mode.text ((s.toList.map .char).reverse ++ [])).step? '"' =
          some (.between, [.text (some s)]) := by
        simp [Mode.step?, chars?_map_char]
      rw [quotedContent, toList_quoted]
      exact .step rfl ((reads_flatMap_escaped s.toList []).append (.cons hclose (.nil _)))

/-! Numbers and words -/

theorem reads_number {part : NumberPart} {text : List Char} (hspells : part.Spells text) :
    Mode.Reads .between text (.number part text.reverse) [] := by
  induction hspells with
  | sign => exact .step rfl (.nil _)
  | zero => exact .step rfl (.nil _)
  | @whole c hdigit hc =>
      have hstart : Mode.start? c = some (.number .whole [c], []) := by
        unfold Mode.start?
        split
        all_goals
          first
          | exact absurd hdigit (by decide)
          | exact absurd rfl hc
          | exact if_pos hdigit
      exact .step hstart (.nil _)
  | @next part later text c _ hlater ih =>
      have hstep : (Mode.number part text.reverse).step? c =
          some (.number later (c :: text.reverse), []) := by
        rw [Mode.step?, hlater]
      rw [List.reverse_append, List.reverse_singleton, List.singleton_append]
      exact ih.append (.step hstep (.nil _))

theorem writes_number {part : NumberPart} {text : List Char} (hspells : part.Spells text)
    (hpart : part.complete = true) : Writes text [.literal (part.value text)] :=
  ⟨_, [], _, reads_number hspells, Mode.ends_number hpart, rfl⟩

theorem writes_word {text letters : List Char} {token : Token}
    (hreads : Mode.Reads .between text (.word letters) [])
    (hword : wordToken? letters.reverse = some token) : Writes text [token] :=
  ⟨_, [], _, hreads, Mode.ends_word hword, rfl⟩

end QuorumNode.Json
