/-
Typed reading of self-describing data.  Nothing is converted: an integer is not
a string, a literal with a fraction is not an integer, and null stands only for
an absent optional text.

A record is an object, its fields in any order and with unknown members
skipped, or a list of the fields in their order.
-/
import QuorumNode.Data.Value

namespace QuorumNode.Data

namespace Value

def bool? : Value → Option Bool
  | bool b => some b
  | _ => none

/-- An integer `n` with `low ≤ n < high`. -/
def intIn? (low high : Int) : Value → Option Int
  | int n => if low ≤ n ∧ n < high then some n else none
  | _ => none

def int32? : Value → Option Int := intIn? (-0x80000000) 0x80000000

def int64? : Value → Option Int := intIn? (-0x8000000000000000) 0x8000000000000000

/-- A natural number below `bound`. -/
def natBelow? (bound : Nat) (v : Value) : Option Nat :=
  (v.intIn? 0 bound).map Int.toNat

def nat8? : Value → Option Nat := natBelow? 0x100

def nat32? : Value → Option Nat := natBelow? 0x100000000

def nat64? : Value → Option Nat := natBelow? 0x10000000000000000

def string? : Value → Option String
  | text content => content
  | _ => none

/-- A text, or null for none. -/
def optionalString? : Value → Option (Option String)
  | null => some none
  | v => v.string?.map some

def listOf? (item? : Value → Option α) : Value → Option (List α)
  | list items => items.mapM item?
  | _ => none

/-- The one member of an object that has no other. -/
def soleMember? : Value → Option (String × Value)
  | object [(some name, v)] => some (name, v)
  | _ => none

/-- A bare choice among labels: the label as text, or as the name of a sole
member whose value is null. -/
def label? (v : Value) : Option String :=
  match v.string? with
  | some label => some label
  | none =>
      match v.soleMember? with
      | some (label, null) => some label
      | _ => none

/-- Reads one of `choices` by its label. -/
def choice? (choices : List α) (label : α → String) (v : Value) : Option α :=
  v.label?.bind fun written => choices.find? fun choice => label choice == written

/-- Whether the value can be a record with these fields: no name is broken, no
field is given twice, and a list is not longer than the record. -/
def isRecord (fields : List String) : Value → Bool
  | object members =>
      members.all (·.1.isSome) &&
        fields.all fun field => (members.filter (·.1 == some field)).length ≤ 1
  | list items => items.length ≤ fields.length
  | _ => false

/-- The value of one field, if the record gives it. -/
def field? (fields : List String) (name : String) : Value → Option Value
  | object members => (members.find? (·.1 == some name)).map (·.2)
  | list items => items[fields.idxOf name]?
  | _ => none

/-- Reads a field, or takes `fallback` when the record does not give it. -/
def fieldOr (fields : List String) (name : String) (read? : Value → Option α)
    (fallback : α) (v : Value) : Option α :=
  match v.field? fields name with
  | some given => read? given
  | none => some fallback

/-- Reads a field that the record must give. -/
def required? (fields : List String) (name : String) (read? : Value → Option α)
    (v : Value) : Option α :=
  (v.field? fields name).bind read?

end Value

end QuorumNode.Data
