/-
The values that text can give, and their tokens.  A written value is scanned into exactly its
tokens.
-/
import QuorumNode.Proofs.Json.Scanning

namespace QuorumNode.Json

open QuorumNode.Data

/-- The values that a text can give: a number that is no integer has to be a literal. -/
inductive WellFormed : Value → Prop where
  | null : WellFormed .null
  | bool (b : Bool) : WellFormed (.bool b)
  | int (n : Int) : WellFormed (.int n)
  | real {written : String} (hliteral : NumberPart.IsLiteral (.real written)) :
      WellFormed (.real written)
  | text (content : Option String) : WellFormed (.text content)
  | list {items : List Value} (hitems : ∀ v ∈ items, WellFormed v) : WellFormed (.list items)
  | object {members : List (Option String × Value)}
      (hmembers : ∀ member ∈ members, WellFormed member.2) : WellFormed (.object members)

mutual

/-- The tokens of a value. -/
def tokensOf : Value → List Token
  | .text content => [.text content]
  | .list items => .openList :: ([.comma].intercalate (itemTokens items) ++ [.closeList])
  | .object members =>
      .openObject :: ([.comma].intercalate (memberTokens members) ++ [.closeObject])
  | v => [.literal v]

def itemTokens : List Value → List (List Token)
  | [] => []
  | v :: rest => tokensOf v :: itemTokens rest

def memberTokens : List (Option String × Value) → List (List Token)
  | [] => []
  | (name, v) :: rest => (.text name :: .colon :: tokensOf v) :: memberTokens rest

end

theorem itemTokens_eq_map (items : List Value) : itemTokens items = items.map tokensOf := by
  induction items with
  | nil => rfl
  | cons v rest ih => rw [itemTokens, ih, List.map_cons]

theorem memberTokens_eq_map (members : List (Option String × Value)) :
    memberTokens members =
      members.map fun member => .text member.1 :: .colon :: tokensOf member.2 := by
  induction members with
  | nil => rfl
  | cons member rest ih => rw [memberTokens, ih, List.map_cons]

theorem renderItems_eq_map (items : List Value) : renderItems items = items.map render := by
  induction items with
  | nil => rfl
  | cons v rest ih => rw [renderItems, ih, List.map_cons]

theorem renderMembers_eq_map (members : List (Option String × Value)) :
    renderMembers members =
      members.map fun member => quotedContent member.1 ++ ":" ++ render member.2 := by
  induction members with
  | nil => rfl
  | cons member rest ih => rw [renderMembers, ih, List.map_cons]

/-- Writing a value and scanning it gives its tokens. -/
theorem writes_render {v : Value} (hv : WellFormed v) :
    Writes (render v).toList (tokensOf v) := by
  induction hv with
  | null =>
      exact writes_word (.step rfl (.step rfl (.step rfl (.step rfl (.nil _))))) rfl
  | bool b =>
      cases b with
      | false =>
          exact writes_word
            (.step rfl (.step rfl (.step rfl (.step rfl (.step rfl (.nil _)))))) rfl
      | true =>
          exact writes_word (.step rfl (.step rfl (.step rfl (.step rfl (.nil _))))) rfl
  | int n =>
      obtain ⟨part, hspells, hpart, hvalue⟩ := NumberPart.exists_spells_int n
      have hnumber := writes_number hspells hpart
      rwa [hvalue] at hnumber
  | @real written hliteral =>
      obtain ⟨part, text, hspells, hpart, hvalue⟩ := hliteral
      have hnumber := writes_number hspells hpart
      have htext : text = written.toList := by
        rcases part.value_eq text with ⟨n, hint⟩ | hreal
        · rw [hint] at hvalue
          contradiction
        · rw [hreal, Value.real.injEq] at hvalue
          rw [← hvalue, String.toList_ofList]
      rwa [hvalue, htext] at hnumber
  | text content => exact writes_of_reads (reads_quotedContent content)
  | list hitems ih =>
      have hopen : ('[', Token.openList) ∈ marks := by simp [marks]
      have hclose : (']', Token.closeList) ∈ marks := by simp [marks]
      rw [render, renderItems_eq_map, tokensOf, itemTokens_eq_map, String.toList_append,
        String.toList_append]
      exact writes_enclosed hopen hclose ih
  | @object members hmembers ih =>
      have hopen : ('\x7b', Token.openObject) ∈ marks := by simp [marks]
      have hclose : ('\x7d', Token.closeObject) ∈ marks := by simp [marks]
      have hmember : ∀ member ∈ members,
          Writes (quotedContent member.1 ++ ":" ++ render member.2).toList
            (.text member.1 :: .colon :: tokensOf member.2) := by
        intro member hmember
        have hcolon : (':', Token.colon) ∈ marks := by simp [marks]
        have hname := (reads_quotedContent member.1).append (reads_mark hcolon)
        rw [String.toList_append, String.toList_append]
        exact .after_reads hname (ih member hmember)
      rw [render, renderMembers_eq_map, tokensOf, memberTokens_eq_map, String.toList_append,
        String.toList_append]
      exact writes_enclosed hopen hclose hmember

end QuorumNode.Json
