/-
Escapes: what a backslash and the characters behind it stand for.
-/
import QuorumNode.Pattern.Scan
import QuorumNode.Pattern.Term
import QuorumNode.Text.Numeral

namespace QuorumNode.Pattern

/-- Characters that mean something unescaped. -/
def isMeta (c : Char) : Bool :=
  "\\.+*?()|[]\x7b\x7d^$#&-~".toList.contains c

/-- Characters that stand for themselves behind a backslash: all of ASCII but
letters, digits and the two angle brackets. -/
def isEscapable (c : Char) : Bool :=
  isMeta c || (c.toNat < 0x80 && !c.isAlphanum && c != '<' && c != '>')

def isHex (c : Char) : Bool := (Text.hexDigit? c).isSome

/-- The character of a hexadecimal number. -/
def hexChar? (digits : List Char) : Option Char :=
  let code := (digits.filterMap Text.hexDigit?).foldl (fun value d => 16 * value + d) 0
  if code.isValidChar then some (Char.ofNat code) else none

/-- The characters with an escape of their own. -/
def controlChar? : Char → Option Char
  | 'a' => some '\x07'
  | 'f' => some '\x0c'
  | 't' => some '\t'
  | 'n' => some '\n'
  | 'r' => some '\r'
  | 'v' => some '\x0b'
  | _ => none

def anchor? : Char → Option Assertion
  | 'A' => some .textStart
  | 'z' => some .textEnd
  | 'B' => some .noWordBoundary
  | '<' => some .wordStart
  | '>' => some .wordEnd
  | _ => none

def shorthand? : Char → Option (Bool × Shorthand)
  | 'd' => some (false, .digit)
  | 's' => some (false, .space)
  | 'w' => some (false, .word)
  | 'D' => some (true, .digit)
  | 'S' => some (true, .space)
  | 'W' => some (true, .word)
  | _ => none

def boundary? : String → Option Assertion
  | "start" => some .wordStart
  | "end" => some .wordEnd
  | "start-half" => some .wordStartHalf
  | "end-half" => some .wordEndHalf
  | _ => none

/-- How many digits follow the letter of a hexadecimal escape. -/
def hexLength? : Char → Option Nat
  | 'x' => some 2
  | 'u' => some 4
  | 'U' => some 8
  | _ => none

/-- The property named between braces; the first sign of equality divides name
and value. -/
def propertyOf (written : List Char) : Property :=
  match cutAt written, written.span (· != ':'), written.span (· != '=') with
  | some (name, value), _, _ => .valued name value
  | none, (name, ':' :: value), _ => .valued name value
  | none, _, (name, '=' :: value) => .valued name value
  | none, _, _ => .named written
where
  cutAt : List Char → Option (List Char × List Char)
    | '!' :: '=' :: rest => some ([], rest)
    | c :: rest => (cutAt rest).map fun (name, value) => (c :: name, value)
    | [] => none

namespace Scan

/-- A fixed number of hexadecimal digits; the scanner stands at the first. -/
def hexDigits : Nat → List Char → Scan (List Char)
  | 0, found => return found.reverse
  | n + 1, found => do
      match ← current? with
      | none => fail (.none (← here)) .escapeUnfinished
      | some c =>
          if isHex c then
            bumpFar
            hexDigits n (c :: found)
          else fail (← charSpan) .hexDigit

/-- A hexadecimal number in braces; the scanner stands at the opening one. -/
def hexInBraces (began : Position) : Scan Term := do
  let brace ← here
  let inside := (← charSpan).stop
  bumpFar
  let digits ← collectAll isHex
  match ← current? with
  | none => fail ⟨brace, ← here⟩ .escapeUnfinished
  | some '\x7d' =>
      let stop ← here
      bumpFar
      if digits.isEmpty then fail ⟨brace, ← here⟩ .hexEmpty
      match hexChar? digits with
      | some c => return .literal ⟨⟨began, ← here⟩, c, false⟩
      | none => fail ⟨inside, stop⟩ .hexNoCharacter
  | some _ => fail (← charSpan) .hexDigit

/-- A hexadecimal escape; the scanner stands at its letter. -/
def hexEscape (began : Position) (length : Nat) : Scan Term := do
  bumpFar
  match ← current? with
  | none => fail (.none (← here)) .escapeUnfinished
  | some '\x7b' => hexInBraces began
  | some _ =>
      let first ← here
      let digits ← hexDigits length []
      match hexChar? digits with
      | some c => return .literal ⟨⟨began, ← here⟩, c, length == 2⟩
      | none => fail ⟨first, ← here⟩ .hexNoCharacter

/-- A property escape; the scanner stands at its letter. -/
def propertyEscape (began : Position) (negated : Bool) : Scan Term := do
  bumpFar
  match ← current? with
  | none => fail (.none (← here)) .escapeUnfinished
  | some '\x7b' =>
      bumpFar
      let name ← collectAll (· != '\x7d')
      if ← atEnd then fail (.none (← here)) .escapeUnfinished
      bump
      return .property ⟨began, ← here⟩ negated (propertyOf name)
  | some '\\' => fail (← charSpan) .propertyInvalid
  | some c =>
      bumpFar
      return .property ⟨began, ← here⟩ negated (.named [c])

/-- A word boundary, which may be of a special sort named in braces.  Braces that
do not begin with a letter or a dash are those of a repetition. -/
def boundaryEscape (began : Position) : Scan Term := do
  let plain : Term := .assertion ⟨began, ← here⟩ .wordBoundary
  if (← current?) ≠ some '\x7b' then return plain
  let before ← get
  let isNameChar := fun (c : Char) => c.isAlpha || c == '-'
  bumpFar
  match ← current? with
  | none => fail ⟨began, ← here⟩ .boundaryOrCountUnfinished
  | some c =>
      if !isNameChar c then
        set before
        return plain
      let inside ← here
      let name ← collectAll isNameChar
      if (← current?) ≠ some '\x7d' then fail ⟨before.position, ← here⟩ .boundaryUnclosed
      let stop ← here
      bump
      match boundary? (String.ofList name) with
      | some boundary => return .assertion ⟨began, ← here⟩ boundary
      | none => fail ⟨inside, stop⟩ .boundaryUnknown

/-- An escape; the scanner stands at the backslash. -/
def escape : Scan Term := do
  let began ← here
  bump
  match ← current? with
  | none => fail ⟨began, ← here⟩ .escapeUnfinished
  | some c =>
      if c.isDigit then fail ⟨began, (← charSpan).stop⟩ .backreference
      if let some length := hexLength? c then return ← hexEscape began length
      if c = 'p' ∨ c = 'P' then return ← propertyEscape began (c == 'P')
      bump
      let span : Span := ⟨began, ← here⟩
      if let some (negated, kind) := shorthand? c then return .shorthand span negated kind
      if isEscapable c then return .literal ⟨span, c, false⟩
      if let some control := controlChar? c then return .literal ⟨span, control, false⟩
      if let some anchor := anchor? c then return .assertion span anchor
      if c = 'b' then boundaryEscape began else fail span .escapeUnknown

end Scan

end QuorumNode.Pattern
