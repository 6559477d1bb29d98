/-
Reading is the inverse of writing: the reader takes the tokens of a value for that value, inside
whatever containers are open.
-/
import QuorumNode.Json.Reader
import QuorumNode.Proofs.Json.Writing

namespace QuorumNode.Json

open QuorumNode.Data

/-! The tokens of a value read back -/

/-- A container under way: the readings after a comma and after an item, with what is done in
reverse, and the reading after the token that closes it. -/
structure Row (α : Type) where
  tokens : α → List Token
  final : Token
  before : List α → Reading
  after : List α → α → Reading
  finished : List α → Reading
  comma : ∀ done item, (after done item).step? .comma = some (before (item :: done))
  close : ∀ done item, (after done item).step? final = some (finished (item :: done).reverse)

namespace Row

variable {α : Type}

/-- The first item is read in a state of its own, in which the container may close at once;
after a comma it may not. -/
theorem foldlM_items (row : Row α) {items : List α}
    (hitem : ∀ done, ∀ item ∈ items,
      (row.tokens item).foldlM Reading.step? (row.before done) = some (row.after done item))
    (done : List α) {reading : Reading}
    (hempty : items = [] → reading.step? row.final = some (row.finished done.reverse))
    (hfirst : ∀ item ∈ items,
      (row.tokens item).foldlM Reading.step? reading = some (row.after done item)) :
    ([.comma].intercalate (items.map row.tokens) ++ [row.final]).foldlM Reading.step? reading =
      some (row.finished (done.reverse ++ items)) := by
  induction items generalizing done reading with
  | nil => simp [hempty rfl]
  | cons item rest ih =>
      have hafter := hfirst item List.mem_cons_self
      cases rest with
      | nil => simp [hafter, row.close]
      | cons other rest =>
          have hrest : ([.comma].intercalate ((other :: rest).map row.tokens) ++
                [row.final]).foldlM Reading.step? (row.before (item :: done)) =
              some (row.finished ((item :: done).reverse ++ other :: rest)) :=
            ih (fun done later hlater => hitem done later (.tail _ hlater)) (item :: done)
              nofun (fun later hlater => hitem (item :: done) later (.tail _ hlater))
          have hsplit : [Token.comma].intercalate ((item :: other :: rest).map row.tokens) ++
                [row.final] = row.tokens item ++ .comma ::
              ([.comma].intercalate ((other :: rest).map row.tokens) ++ [row.final]) := by
            simp
          rw [hsplit, List.foldlM_append, hafter]
          simpa [row.comma] using hrest

/-- The items of a list that is read inside `frames`. -/
def ofList (frames : List Frame) : Row Value where
  tokens := tokensOf
  final := .closeList
  before done := ⟨.list done :: frames, .value⟩
  after done v := ⟨.list done :: frames, .complete v⟩
  finished items := ⟨frames, .complete (.list items)⟩
  comma _ _ := rfl
  close _ _ := rfl

/-- The members of an object that is read inside `frames`. -/
def ofObject (frames : List Frame) : Row (Option String × Value) where
  tokens member := .text member.1 :: .colon :: tokensOf member.2
  final := .closeObject
  before done := ⟨frames, .name done⟩
  after done member := ⟨.object done member.1 :: frames, .complete member.2⟩
  finished members := ⟨frames, .complete (.object members)⟩
  comma _ _ := rfl
  close _ _ := rfl

end Row

namespace Reading

/-- No value begins with the token that closes a list. -/
theorem foldlM_listStart {frames : List Frame} {tokens : List Token} {v : Value}
    (htokens : tokens.foldlM step? ⟨.list [] :: frames, .value⟩ =
      some ⟨.list [] :: frames, .complete v⟩) :
    tokens.foldlM step? ⟨frames, .listStart⟩ = some ⟨.list [] :: frames, .complete v⟩ := by
  cases tokens with
  | nil => simp at htokens
  | cons token rest =>
      cases token with
      | closeList => contradiction
      | _ => exact htokens

theorem foldlM_tokensOf {v : Value} (hv : WellFormed v) (frames : List Frame) :
    (tokensOf v).foldlM step? ⟨frames, .value⟩ = some ⟨frames, .complete v⟩ := by
  induction hv generalizing frames with
  | null => rfl
  | bool => rfl
  | int => rfl
  | real => rfl
  | text => rfl
  | @list items hitems ih =>
      rw [tokensOf, itemTokens_eq_map, List.foldlM_cons]
      exact (Row.ofList frames).foldlM_items
        (fun done item hitem => ih item hitem (.list done :: frames)) [] (fun _ => rfl)
        (fun item hitem => foldlM_listStart (ih item hitem (.list [] :: frames)))
  | @object members hmembers ih =>
      rw [tokensOf, memberTokens_eq_map, List.foldlM_cons]
      exact (Row.ofObject frames).foldlM_items
        (fun done member hmember => ih member hmember (.object done member.1 :: frames)) []
        (fun _ => rfl) (fun member hmember => ih member hmember (.object [] member.1 :: frames))

end Reading

theorem ofTokens?_tokensOf {v : Value} (hv : WellFormed v) : ofTokens? (tokensOf v) = some v := by
  rw [ofTokens?, Reading.foldlM_tokensOf hv]
  rfl

/-- What is written reads back. -/
theorem parse?_render {v : Value} (hv : WellFormed v) : parse? (render v) = some v := by
  rw [parse?, (writes_render hv).tokens?, Option.bind_some, ofTokens?_tokensOf hv]

end QuorumNode.Json
