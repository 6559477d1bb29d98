/-
Reading a pattern from left to right.  In verbose patterns blanks and comments
mean nothing between the parts of most constructs, so there are steps that pass
over them and steps that do not.
-/
import QuorumNode.Pattern.Flaw
import QuorumNode.Text.Blank

namespace QuorumNode.Pattern

/-- Where reading has come to, and the names of groups given so far. -/
structure Scanner where
  rest : List Char
  position : Position
  verbose : Bool
  names : List (List Char × Span)
deriving Repr

abbrev Scan := StateT Scanner (Except Flaw)

namespace Scanner

def start (text : List Char) : Scanner := ⟨text, .origin, false, []⟩

/-- Moves behind the first `n` characters of the rest. -/
def skip (n : Nat) (s : Scanner) : Scanner :=
  { s with rest := s.rest.drop n, position := s.position.afterAll (s.rest.take n) }

/-- How many blanks and characters of comments the text begins with; a comment
goes from a number sign to the end of its line. -/
def ignored : Bool → List Char → Nat
  | _, [] => 0
  | true, c :: rest => ignored (c != '\n') rest + 1
  | false, c :: rest =>
      if Text.isBlank c then ignored false rest + 1
      else if c = '#' then ignored true rest + 1
      else 0

/-- The character behind the current one; in a verbose pattern the first that is
neither a blank nor the beginning of a comment. -/
def behind? (s : Scanner) : Option Char :=
  if s.verbose then go false (s.rest.drop 1) else s.rest[1]?
where
  go : Bool → List Char → Option Char
    | _, [] => none
    | inComment, c :: rest =>
        if Text.isBlank c then go inComment rest
        else if !inComment && c == '#' then go true rest
        else some c

/-- The span of the current character. -/
def charSpan (s : Scanner) : Span :=
  ⟨s.position, s.position.afterAll (s.rest.take 1)⟩

end Scanner

namespace Scan

def fail (span : Span) (fault : Fault) : Scan α := throw ⟨span, fault⟩

/-- The current character, if the text goes on. -/
def current? : Scan (Option Char) := return (← get).rest.head?

def here : Scan Position := return (← get).position

def charSpan : Scan Span := return (← get).charSpan

def atEnd : Scan Bool := return (← get).rest.isEmpty

/-- A bound on the steps that are left. -/
def fuel : Scan Nat := return (← get).rest.length + 1

def bump : Scan Unit := modify (·.skip 1)

def bumpBlanks : Scan Unit :=
  modify fun s => s.skip (s.rest.takeWhile Text.isBlank).length

/-- Passes over what means nothing in a verbose pattern. -/
def bumpIgnored : Scan Unit :=
  modify fun s => if s.verbose then s.skip (Scanner.ignored false s.rest) else s

/-- One character and what may be ignored behind it. -/
def bumpFar : Scan Unit := do
  bump
  bumpIgnored

/-- Moves behind a text if the rest begins with it. -/
def bumpIf (text : String) : Scan Bool := do
  let found := text.toList.isPrefixOf (← get).rest
  if found then modify (·.skip text.length)
  return found

/-- Collects characters while `wanted` holds. -/
def collect (wanted : Char → Bool) : Nat → List Char → Scan (List Char)
  | 0, found => return found.reverse
  | fuel + 1, found => do
      match ← current? with
      | some c =>
          if wanted c then
            bumpFar
            collect wanted fuel (c :: found)
          else return found.reverse
      | none => return found.reverse

def collectAll (wanted : Char → Bool) : Scan (List Char) := do
  collect wanted (← fuel) []

end Scan

end QuorumNode.Pattern
