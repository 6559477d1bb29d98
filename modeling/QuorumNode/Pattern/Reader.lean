/-
Reading a pattern as a tree.  Groups and choices still open wait in a list, the
innermost first.
-/
import QuorumNode.Pattern.Class
import QuorumNode.Text.Letter

namespace QuorumNode.Pattern

/-- Terms one behind the other, in reverse. -/
structure Run where
  start : Position
  items : List Term

namespace Run

def push (r : Run) (t : Term) : Run := { r with items := t :: r.items }

/-- The term of a run that ends at `stop`. -/
def close (r : Run) (stop : Position) : Term :=
  match r.items with
  | [] => .empty ⟨r.start, stop⟩
  | [t] => t
  | items => .sequence ⟨r.start, stop⟩ items.reverse

end Run

/-- A group whose parenthesis is open, with the run it stands in and whether that
is verbose; or the branches of a choice so far, in reverse. -/
inductive Frame where
  | group (outer : Run) (span : Span) (switches : List SwitchItem) (verbose : Bool)
  | choice (start : Position) (branches : List Term)

/-- A branch of a choice ends at `stop`. -/
def Frame.branch (r : Run) (stop : Position) : List Frame → List Frame
  | .choice start branches :: frames => .choice start (r.close stop :: branches) :: frames
  | frames => .choice r.start [r.close stop] :: frames

/-- What stands in the innermost group once its text ends at `stop`. -/
def Frame.body (r : Run) (stop : Position) : List Frame → Term × List Frame
  | .choice start branches :: frames =>
      (.choice ⟨start, stop⟩ (r.close stop :: branches).reverse, frames)
  | frames => (r.close stop, frames)

/-- What an opening parenthesis may begin. -/
inductive Opening where
  | switches (span : Span) (items : List SwitchItem)
  | group (span : Span) (items : List SwitchItem)

def switch? : Char → Option Switch
  | 'i' => some .ignoreCase
  | 'm' => some .manyLines
  | 's' => some .dotMatchesLineFeed
  | 'U' => some .swapGreed
  | 'u' => some .unicode
  | 'R' => some .carriageReturns
  | 'x' => some .verbose
  | _ => none

/-- Names begin with a letter and go on with letters, numbers, dots and brackets;
an underscore may stand anywhere. -/
def isNameChar (first : Bool) (c : Char) : Bool :=
  c == '_' ||
    if first then Text.isAlphabetic c
    else c == '.' || c == '[' || c == ']' || Text.isAlphanumeric c

namespace Scan

/-- The characters of a name, up to the bracket that closes it. -/
def nameChars (first : Bool) : Nat → List Char → Scan (List Char)
  | 0, found => return found.reverse
  | fuel + 1, found => do
      match ← current? with
      | none | some '>' => return found.reverse
      | some c =>
          if !isNameChar first c then fail (← charSpan) .nameCharacter
          bump
          nameChars false fuel (c :: found)

/-- The name of a group and the bracket behind it. -/
def groupName : Scan Unit := do
  let start ← here
  let name ← nameChars true (← fuel) []
  let stop ← here
  if ← atEnd then fail (.none stop) .nameUnclosed
  bump
  if name.isEmpty then fail (.none start) .nameEmpty
  match (← get).names.find? (·.1 == name) with
  | some (_, first) => fail ⟨start, stop⟩ (.nameTwice first)
  | none => modify fun s => { s with names := (name, ⟨start, stop⟩) :: s.names }

/-- Switches up to a colon or a closing parenthesis, none of them twice, with
what they end in. -/
def switchItems : Nat → List (SwitchItem × Span) → Scan (List SwitchItem)
  | 0, found => return found.reverse.map (·.1)
  | fuel + 1, found => do
      match ← current? with
      | none | some ':' | some ')' =>
          match found with
          | (.negation, span) :: _ => fail span .switchDanglingNegation
          | _ => return found.reverse.map (·.1)
      | some c =>
          let span ← charSpan
          let item ← show Scan SwitchItem from
            if c = '-' then return .negation
            else
              match switch? c with
              | some switch => return .switch switch
              | none => fail span .switchUnknown
          match found.find? (·.1 == item) with
          | some (_, first) =>
              fail span (if item = .negation then .switchNegationTwice first
                else .switchTwice first)
          | none =>
              bump
              if ← atEnd then fail (.none (← here)) .switchUnfinished
              switchItems fuel ((item, span) :: found)

/-- What a parenthesis begins; the scanner stands at it.  Switches without any
are a question mark that has nothing to repeat. -/
def opening : Scan Opening := do
  let paren ← charSpan
  bump
  bumpIgnored
  for sign in ["?=", "?!", "?<=", "?<!"] do
    if ← bumpIf sign then fail ⟨paren.start, ← here⟩ .lookAround
  let inner ← here
  if (← bumpIf "?P<") || (← show Scan Bool from bumpIf "?<") then
    if ← atEnd then fail (.none (← here)) .nameUnclosed
    groupName
    return .group paren []
  if !(← bumpIf "?") then return .group paren []
  if ← atEnd then fail paren .groupUnclosed
  let items ← switchItems (← fuel) []
  let last ← current?
  bump
  if last = some ')' then
    if items.isEmpty then fail (.none inner) .repetitionOfNothing
    return .switches ⟨paren.start, ← here⟩ items
  return .group paren items

/-- A decimal number of 32 bits; blanks may stand around it.  The result keeps a
flaw back, since others go before it. -/
def decimal : Scan (Except Flaw Nat) := do
  bumpBlanks
  let start ← here
  let digits ← collectAll Char.isDigit
  let span : Span := ⟨start, ← here⟩
  if (← current?).any Text.isBlank then
    bumpBlanks
    bumpIgnored
  if digits.isEmpty then return .error ⟨span, .countEmpty⟩
  match (Text.digits? digits).filter (· < 0x100000000) with
  | some n => return .ok n
  | none => return .error ⟨span, .decimalTooLarge⟩

/-- The last of the terms before a repetition, which must be something. -/
def repeated (r : Run) : Scan (Term × Run) := do
  match r.items with
  | t :: items =>
      if t.isNothing then fail (.none (← here)) .repetitionOfNothing
      return (t, { r with items })
  | [] => fail (.none (← here)) .repetitionOfNothing

/-- A question mark behind a repetition makes it take as little as it can. -/
def lazily : Scan Unit := do
  if (← current?) = some '?' then bump

/-- A repetition by one sign. -/
def signRepetition (r : Run) : Scan Run := do
  let (t, r) ← repeated r
  bump
  lazily
  return r.push (.repetition ⟨t.span.start, ← here⟩ false t)

/-- A repetition with its counts in braces; the scanner stands at the first. -/
def countRepetition (r : Run) : Scan Run := do
  let began ← here
  let (t, r) ← repeated r
  let unclosed := show Scan Unit from do
    if ← atEnd then fail ⟨began, ← here⟩ .countUnclosed
  bumpFar
  unclosed
  let low ← decimal
  unclosed
  let most ← show Scan (Option Nat) from do
    if (← current?) ≠ some ',' then return some (← low)
    bumpFar
    unclosed
    if (← current?) = some '\x7d' then return none
    let _ ← low
    return some (← (← decimal))
  if (← current?) ≠ some '\x7d' then fail ⟨began, ← here⟩ .countUnclosed
  bumpFar
  lazily
  let least ← low
  if most.any (· < least) then fail ⟨began, ← here⟩ .countOrder
  return r.push (.repetition ⟨t.span.start, ← here⟩ (most == some 0) t)

/-- One character outside classes that is no sign of structure. -/
def primitive (c : Char) : Scan Term := do
  if c = '\\' then escape
  else
    let span ← charSpan
    bump
    match c with
    | '.' => return .dot span
    | '^' => return .assertion span .lineStart
    | '$' => return .assertion span .lineEnd
    | _ => return .literal ⟨span, c, false⟩

/-- A parenthesis opens. -/
def openGroup (frames : List Frame) (r : Run) : Scan (List Frame × Run) := do
  let verbose := (← get).verbose
  match ← opening with
  | .switches span items =>
      let next := (SwitchItem.setting? .verbose items).getD verbose
      modify fun s => { s with verbose := next }
      return (frames, r.push (.switches span items))
  | .group span items =>
      let next := (SwitchItem.setting? .verbose items).getD verbose
      modify fun s => { s with verbose := next }
      return (.group r span items verbose :: frames, ⟨← here, []⟩)

/-- A parenthesis closes. -/
def closeGroup (frames : List Frame) (r : Run) : Scan (List Frame × Run) := do
  match Frame.body r (← here) frames with
  | (body, .group outer span items verbose :: frames) =>
      bump
      modify fun s => { s with verbose }
      return (frames, outer.push (.group ⟨span.start, ← here⟩ items body))
  | _ => fail (← charSpan) .groupUnopened

/-- The whole pattern, once its text has ended. -/
def finish (frames : List Frame) (r : Run) : Scan Term := do
  match Frame.body r (← here) frames with
  | (t, []) => return t
  | (_, .group _ span _ _ :: _) => fail span .groupUnclosed
  | (t, .choice .. :: _) => return t

def terms : Nat → List Frame → Run → Scan Term
  | 0, frames, r => finish frames r
  | fuel + 1, frames, r => do
      bumpIgnored
      match ← current? with
      | none => finish frames r
      | some '(' =>
          let (frames, r) ← openGroup frames r
          terms fuel frames r
      | some ')' =>
          let (frames, r) ← closeGroup frames r
          terms fuel frames r
      | some '|' =>
          let frames := Frame.branch r (← here) frames
          bump
          terms fuel frames ⟨← here, []⟩
      | some '[' => terms fuel frames (r.push (← bracketedClass))
      | some '?' | some '*' | some '+' => terms fuel frames (← signRepetition r)
      | some '\x7b' => terms fuel frames (← countRepetition r)
      | some c => terms fuel frames (r.push (← primitive c))

end Scan

mutual

/-- The first set, from the outside in, that stands inside `left` others. -/
def ClassSet.tooDeep? (left : Nat) : ClassSet → Option Span
  | .bracketed span _ set =>
      match left with
      | 0 => some span
      | left + 1 => set.tooDeep? left
  | .union span items =>
      match left with
      | 0 => some span
      | left + 1 => ClassSet.anyTooDeep? left items
  | .combined span _ one other =>
      match left with
      | 0 => some span
      | left + 1 => (one.tooDeep? left).or (other.tooDeep? left)
  | _ => none

def ClassSet.anyTooDeep? (left : Nat) : List ClassSet → Option Span
  | [] => none
  | set :: rest => (set.tooDeep? left).or (ClassSet.anyTooDeep? left rest)

end

mutual

/-- The first term, from the outside in, that stands inside `left` others. -/
def Term.tooDeep? (left : Nat) : Term → Option Span
  | .bracketed span _ set =>
      match left with
      | 0 => some span
      | left + 1 => set.tooDeep? left
  | .repetition span _ body | .group span _ body =>
      match left with
      | 0 => some span
      | left + 1 => body.tooDeep? left
  | .choice span items | .sequence span items =>
      match left with
      | 0 => some span
      | left + 1 => Term.anyTooDeep? left items
  | _ => none

def Term.anyTooDeep? (left : Nat) : List Term → Option Span
  | [] => none
  | t :: rest => (t.tooDeep? left).or (Term.anyTooDeep? left rest)

end

/-- How deep groups, classes and lists of terms may stand inside each other. -/
def nestingLimit : Nat := 250

/-- Reads a whole pattern. -/
def parse (text : List Char) : Except Flaw Term := do
  let t ← (Scan.terms (text.length + 1) [] ⟨.origin, []⟩).run' (Scanner.start text)
  match t.tooDeep? nestingLimit with
  | some span => throw ⟨span, .nesting nestingLimit⟩
  | none => return t

end QuorumNode.Pattern
