/-
Reading a JSON text as one value.  Containers that are still open wait in a
list, so the depth of a text is bounded by its length alone.
-/
import QuorumNode.Json.Token

namespace QuorumNode.Json

open QuorumNode.Data

/-- A container with a value under way in it; what is done stands in
reverse. -/
inductive Frame where
  | list (done : List Value)
  | object (done : List (Option String × Value)) (name : Option String)
deriving Repr

/-- What may come next. -/
inductive Phase where
  | value
  | listStart
  | objectStart
  | name (done : List (Option String × Value))
  | colon (done : List (Option String × Value)) (name : Option String)
  | complete (v : Value)
deriving Repr

/-- A text part way through. -/
structure Reading where
  frames : List Frame
  phase : Phase
deriving Repr

namespace Reading

/-- A value begins inside `frames`. -/
def begin? (frames : List Frame) : Token → Option Reading
  | .literal v => some ⟨frames, .complete v⟩
  | .text content => some ⟨frames, .complete (.text content)⟩
  | .openList => some ⟨frames, .listStart⟩
  | .openObject => some ⟨frames, .objectStart⟩
  | _ => none

/-- A value is complete; the innermost container goes on or closes. -/
def continue? (v : Value) : List Frame → Token → Option Reading
  | .list done :: rest, .comma => some ⟨.list (v :: done) :: rest, .value⟩
  | .list done :: rest, .closeList => some ⟨rest, .complete (.list (v :: done).reverse)⟩
  | .object done name :: rest, .comma => some ⟨rest, .name ((name, v) :: done)⟩
  | .object done name :: rest, .closeObject =>
      some ⟨rest, .complete (.object ((name, v) :: done).reverse)⟩
  | _, _ => none

def step? (reading : Reading) (token : Token) : Option Reading :=
  match reading.phase, token with
  | .value, _ => begin? reading.frames token
  | .listStart, .closeList => some ⟨reading.frames, .complete (.list [])⟩
  | .listStart, _ => begin? (.list [] :: reading.frames) token
  | .objectStart, .closeObject => some ⟨reading.frames, .complete (.object [])⟩
  | .objectStart, .text content => some ⟨reading.frames, .colon [] content⟩
  | .name done, .text content => some ⟨reading.frames, .colon done content⟩
  | .colon done name, .colon => some ⟨.object done name :: reading.frames, .value⟩
  | .complete v, _ => continue? v reading.frames token
  | _, _ => none

/-- The value of a text that ends here. -/
def finish? : Reading → Option Value
  | ⟨[], .complete v⟩ => some v
  | _ => none

end Reading

def ofTokens? (tokens : List Token) : Option Value := do
  (← tokens.foldlM Reading.step? ⟨[], .value⟩).finish?

/-- Reads one value and nothing after it. -/
def parse? (text : String) : Option Value :=
  (tokens? text.toList).bind ofTokens?

end QuorumNode.Json
