/-
Self-describing data, the common content of JSON and TOML text.
-/

namespace QuorumNode.Data

/-- A number is an exact integer or a literal kept as it was written; minus
zero, fractions and powers are of the second sort.  A text of `none` stands for
a string that has half of a surrogate pair in it: well formed, but no text.
Members of an object keep their order, and a name may repeat. -/
inductive Value where
  | null
  | bool (b : Bool)
  | int (n : Int)
  | real (written : String)
  | text (content : Option String)
  | list (items : List Value)
  | object (members : List (Option String × Value))
deriving Repr, Inhabited

namespace Value

def ofString (s : String) : Value := text (some s)

def ofNat (n : Nat) : Value := int n

/-- An object with proper, distinct names. -/
def ofFields (fields : List (String × Value)) : Value :=
  object (fields.map fun field => (some field.1, field.2))

/-- A value or null. -/
def ofOption (f : α → Value) : Option α → Value
  | some a => f a
  | none => null

def ofList (f : α → Value) (items : List α) : Value :=
  list (items.map f)

end Value

end QuorumNode.Data
