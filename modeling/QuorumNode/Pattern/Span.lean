/-
Places in the text of a pattern.
-/

namespace QuorumNode.Pattern

/-- A place between two characters: how many characters stand before it, its
line and its column, both counted from one. -/
structure Position where
  index : Nat
  line : Nat
  column : Nat
deriving DecidableEq, Repr, Inhabited

namespace Position

def origin : Position := ⟨0, 1, 1⟩

/-- The place behind a character that stands here. -/
def after (p : Position) (c : Char) : Position :=
  if c = '\n' then ⟨p.index + 1, p.line + 1, 1⟩ else ⟨p.index + 1, p.line, p.column + 1⟩

/-- The place behind several characters. -/
def afterAll (p : Position) (chars : List Char) : Position := chars.foldl after p

end Position

/-- The text from one place to another. -/
structure Span where
  start : Position
  stop : Position
deriving DecidableEq, Repr, Inhabited

namespace Span

/-- No text, at a place. -/
def none (p : Position) : Span := ⟨p, p⟩

def isOneLine (s : Span) : Bool := s.start.line == s.stop.line

/-- The order by start, then by end. -/
def before (s t : Span) : Bool :=
  s.start.index < t.start.index || (s.start.index == t.start.index && s.stop.index ≤ t.stop.index)

end Span

end QuorumNode.Pattern
