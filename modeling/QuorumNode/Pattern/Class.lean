/-
Bracketed classes.  They nest and combine, so those still open wait in a list,
the innermost first.
-/
import QuorumNode.Pattern.Escape

namespace QuorumNode.Pattern

/-- The parts of a class that stand side by side, in reverse. -/
structure Union where
  span : Span
  items : List ClassSet

namespace Union

def empty (p : Position) : Union := ⟨.none p, []⟩

def push (u : Union) (item : ClassSet) : Union :=
  let start := if u.items.isEmpty then item.span.start else u.span.start
  ⟨⟨start, item.span.stop⟩, item :: u.items⟩

def toSet (u : Union) : ClassSet :=
  match u.items with
  | [] => .empty u.span
  | [item] => item
  | items => .union u.span items.reverse

end Union

/-- A class whose bracket is open, with what stands around it; or the left side
of a combination. -/
inductive ClassFrame where
  | bracket (outer : Union) (span : Span) (negated : Bool)
  | operator (op : SetOp) (left : ClassSet)

/-- A class by name, such as the digits, and how many characters it takes.  The
text begins with a bracket; what is no such class begins a nested one. -/
def namedClass? (text : List Char) : Option (Nat × Bool × NamedClass) :=
  match text with
  | '[' :: ':' :: '^' :: rest => (closed? rest).map fun (n, kind) => (n + 5, true, kind)
  | '[' :: ':' :: rest => (closed? rest).map fun (n, kind) => (n + 4, false, kind)
  | _ => none
where
  closed? (text : List Char) : Option (Nat × NamedClass) :=
    match text.span (· != ':') with
    | (name, ':' :: ']' :: _) =>
        (NamedClass.ofName? (String.ofList name)).map fun kind => (name.length, kind)
    | _ => none

/-- A doubled sign that combines two sets. -/
def setOp? : List Char → Option SetOp
  | '&' :: '&' :: _ => some .intersection
  | '-' :: '-' :: _ => some .difference
  | '~' :: '~' :: _ => some .symmetricDifference
  | _ => none

/-- The combined set once its right side is complete. -/
def ClassFrame.combine (right : ClassSet) : List ClassFrame → ClassSet × List ClassFrame
  | .operator op left :: frames =>
      (.combined ⟨left.span.start, right.span.stop⟩ op left right, frames)
  | frames => (right, frames)

namespace Scan

/-- The innermost bracket is the one that misses its end. -/
def failUnclosed (frames : List ClassFrame) : Scan α := do
  let span := frames.findSome? fun
    | .bracket _ span _ => some span
    | .operator .. => none
  fail (span.getD (.none (← here))) .classUnclosed

/-- Dashes at the beginning of a class stand for themselves. -/
def leadingDashes (opened : Position) : Nat → Union → Scan Union
  | 0, u => return u
  | fuel + 1, u => do
      if (← current?) ≠ some '-' then return u
      let u := u.push (.literal ⟨← charSpan, '-', false⟩)
      bumpFar
      if ← atEnd then fail (.none opened) .classUnclosed
      leadingDashes opened fuel u

/-- The beginning of a class: its bracket, the sign of negation, and characters
that stand for themselves only here. -/
def classOpening : Scan (Span × Bool × Union) := do
  let opened ← here
  bumpFar
  if ← atEnd then fail ⟨opened, ← here⟩ .classUnclosed
  let negated := (← current?) == some '^'
  if negated then
    bumpFar
    if ← atEnd then fail ⟨opened, ← here⟩ .classUnclosed
  let u ← leadingDashes opened (← fuel) (.empty (← here))
  if u.items.isEmpty && (← current?) == some ']' then
    let u := u.push (.literal ⟨← charSpan, ']', false⟩)
    bumpFar
    if ← atEnd then fail ⟨opened, ← here⟩ .classUnclosed
    return (⟨opened, ← here⟩, negated, u)
  return (⟨opened, ← here⟩, negated, u)

/-- One character or escape of a class. -/
def classPrimitive : Scan Term := do
  match ← current? with
  | some '\\' => escape
  | some c =>
      let span ← charSpan
      bump
      return .literal ⟨span, c, false⟩
  | none => fail (.none (← here)) .classUnclosed

def classItem (primitive : Term) : Scan ClassSet :=
  match primitive with
  | .literal l => return .literal l
  | .property span negated property => return .property span negated property
  | .shorthand span negated kind => return .shorthand span negated kind
  | other => fail other.span .classEscape

def rangeBoundary (primitive : Term) : Scan Literal :=
  match primitive with
  | .literal l => return l
  | other => fail other.span .classRangeBoundary

/-- A character, an escape, or a range of characters.  A dash before the closing
bracket or before another dash makes no range. -/
def classRange (frames : List ClassFrame) : Scan ClassSet := do
  let first ← classPrimitive
  bumpIgnored
  if ← atEnd then failUnclosed frames
  let behind := (← get).behind?
  if (← current?) ≠ some '-' ∨ behind = some ']' ∨ behind = some '-' then classItem first
  else
    bumpFar
    if ← atEnd then failUnclosed frames
    let last ← classPrimitive
    let span : Span := ⟨first.span.start, last.span.stop⟩
    let low ← rangeBoundary first
    let high ← rangeBoundary last
    if high.char < low.char then fail span .classRangeOrder
    return .range span low high

/-- Reads a class to its end.  `frames` holds no bracket before the first was
read. -/
def classBody : Nat → List ClassFrame → Union → Scan Term
  | 0, frames, _ => failUnclosed frames
  | fuel + 1, frames, u => do
      bumpIgnored
      let rest := (← get).rest
      match rest with
      | [] => failUnclosed frames
      | '[' :: _ =>
          match if frames.isEmpty then none else namedClass? rest with
          | some (length, negated, kind) =>
              let start ← here
              modify (·.skip length)
              classBody fuel frames (u.push (.named ⟨start, ← here⟩ negated kind))
          | none =>
              let (span, negated, inner) ← classOpening
              classBody fuel (.bracket u span negated :: frames) inner
      | ']' :: _ =>
          match ClassFrame.combine u.toSet frames with
          | (set, .bracket outer span negated :: frames) =>
              bump
              let span : Span := ⟨span.start, ← here⟩
              if frames.isEmpty then return .bracketed span negated set
              classBody fuel frames (outer.push (.bracketed span negated set))
          | (_, frames) => failUnclosed frames
      | _ =>
          match setOp? rest with
          | some op =>
              modify (·.skip 2)
              let (left, frames) := ClassFrame.combine u.toSet frames
              classBody fuel (.operator op left :: frames) (.empty (← here))
          | none => classBody fuel frames (u.push (← classRange frames))

/-- A bracketed class; the scanner stands at its bracket. -/
def bracketedClass : Scan Term := do
  classBody (← fuel) [] (.empty (← here))

end Scan

end QuorumNode.Pattern
