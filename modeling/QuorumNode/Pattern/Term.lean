/-
Patterns as trees.  Every part keeps the place it was read from.
-/
import QuorumNode.Pattern.Span

namespace QuorumNode.Pattern

/-- What can be switched inside a pattern. -/
inductive Switch where
  | ignoreCase
  | manyLines
  | dotMatchesLineFeed
  | swapGreed
  | unicode
  | carriageReturns
  | verbose
deriving DecidableEq, Repr

/-- Switches behind a negation are turned off. -/
inductive SwitchItem where
  | negation
  | switch (switch : Switch)
deriving DecidableEq, Repr

/-- What the items do to a switch; the first that names it decides. -/
def SwitchItem.setting? (switch : Switch) (items : List SwitchItem) : Option Bool :=
  go true items
where
  go : Bool → List SwitchItem → Option Bool
    | _, [] => none
    | _, .negation :: rest => go false rest
    | on, .switch other :: rest => if other = switch then some on else go on rest

/-- A character; `isByte` when it was written as two hexadecimal digits, which
stand for a byte where patterns are about bytes. -/
structure Literal where
  span : Span
  char : Char
  isByte : Bool
deriving DecidableEq, Repr

inductive Assertion where
  | lineStart
  | lineEnd
  | textStart
  | textEnd
  | wordBoundary
  | noWordBoundary
  | wordStart
  | wordEnd
  | wordStartHalf
  | wordEndHalf
deriving DecidableEq, Repr

/-- Whether the assertion depends on which characters belong to words. -/
def Assertion.isAboutWords : Assertion → Bool
  | lineStart | lineEnd | textStart | textEnd => false
  | _ => true

/-- Classes with a one-letter escape. -/
inductive Shorthand where
  | digit
  | space
  | word
deriving DecidableEq, Repr

/-- Classes with a name between brackets and colons. -/
inductive NamedClass where
  | alnum
  | alpha
  | ascii
  | blank
  | cntrl
  | digit
  | graph
  | lower
  | print
  | punct
  | space
  | upper
  | word
  | xdigit
deriving DecidableEq, Repr

def NamedClass.ofName? : String → Option NamedClass
  | "alnum" => some alnum
  | "alpha" => some alpha
  | "ascii" => some ascii
  | "blank" => some blank
  | "cntrl" => some cntrl
  | "digit" => some digit
  | "graph" => some graph
  | "lower" => some lower
  | "print" => some print
  | "punct" => some punct
  | "space" => some space
  | "upper" => some upper
  | "word" => some word
  | "xdigit" => some xdigit
  | _ => none

/-- The name of a property of characters, alone or with a value. -/
inductive Property where
  | named (name : List Char)
  | valued (name value : List Char)
deriving DecidableEq, Repr

inductive SetOp where
  | intersection
  | difference
  | symmetricDifference
deriving DecidableEq, Repr

/-- What stands inside a bracketed class. -/
inductive ClassSet where
  | empty (span : Span)
  | literal (literal : Literal)
  | range (span : Span) (low high : Literal)
  | named (span : Span) (negated : Bool) (kind : NamedClass)
  | property (span : Span) (negated : Bool) (property : Property)
  | shorthand (span : Span) (negated : Bool) (kind : Shorthand)
  | bracketed (span : Span) (negated : Bool) (set : ClassSet)
  | union (span : Span) (items : List ClassSet)
  | combined (span : Span) (op : SetOp) (left right : ClassSet)

def ClassSet.span : ClassSet → Span
  | empty span | range span .. | named span .. | property span .. | shorthand span ..
  | bracketed span .. | union span _ | combined span .. => span
  | literal l => l.span

/-- `never` marks a repetition that allows no turn at all. -/
inductive Term where
  | empty (span : Span)
  | switches (span : Span) (items : List SwitchItem)
  | literal (literal : Literal)
  | dot (span : Span)
  | assertion (span : Span) (assertion : Assertion)
  | property (span : Span) (negated : Bool) (property : Property)
  | shorthand (span : Span) (negated : Bool) (kind : Shorthand)
  | bracketed (span : Span) (negated : Bool) (set : ClassSet)
  | repetition (span : Span) (never : Bool) (body : Term)
  | group (span : Span) (switches : List SwitchItem) (body : Term)
  | choice (span : Span) (branches : List Term)
  | sequence (span : Span) (items : List Term)

def Term.span : Term → Span
  | empty span | switches span _ | dot span | assertion span _ | property span ..
  | shorthand span .. | bracketed span .. | repetition span .. | group span ..
  | choice span _ | sequence span _ => span
  | literal l => l.span

/-- Whether a repetition has nothing to repeat in it. -/
def Term.isNothing : Term → Bool
  | empty _ | switches .. => true
  | _ => false

end QuorumNode.Pattern
