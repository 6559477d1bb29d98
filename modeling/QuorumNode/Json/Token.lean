/-
The tokens of JSON text.  The scanner takes one character at a time and holds
what it has seen of the token under way, so scanning is a fold over the text.
Adjacent tokens are not judged here: no value may follow another without a
comma, whatever stands between them.
-/
import QuorumNode.Data.Value
import QuorumNode.Text.Numeral

namespace QuorumNode.Json

open QuorumNode.Data

inductive Token where
  | openList
  | closeList
  | openObject
  | closeObject
  | comma
  | colon
  | text (content : Option String)
  | literal (v : Value)
deriving Repr, Inhabited

/-- One unit of a string: a character, or an escaped half of a surrogate
pair. -/
inductive TextUnit where
  | char (c : Char)
  | high (unit : Nat)
  | low (unit : Nat)
deriving DecidableEq, Repr

/-- The unit that a four-digit escape stands for. -/
def TextUnit.ofCode (code : Nat) : TextUnit :=
  if 0xd800 ≤ code ∧ code < 0xdc00 then high code
  else if 0xdc00 ≤ code ∧ code < 0xe000 then low code
  else char (Char.ofNat code)

/-- The characters of a string, unless some half has no partner right after
it. -/
def TextUnit.chars? : List TextUnit → Option (List Char)
  | [] => some []
  | char c :: rest => (chars? rest).map (c :: ·)
  | high a :: low b :: rest =>
      (chars? rest).map (Char.ofNat (0x10000 + (a - 0xd800) * 0x400 + (b - 0xdc00)) :: ·)
  | _ => none

/-- The part of a number literal that was read last. -/
inductive NumberPart where
  | sign
  | zero
  | whole
  | point
  | fraction
  | mark
  | markSign
  | power
deriving DecidableEq, Repr

namespace NumberPart

/-- The part that `c` continues the literal with; a leading zero stands
alone. -/
def next? (part : NumberPart) (c : Char) : Option NumberPart :=
  match part with
  | sign => if c = '0' then some zero else if c.isDigit then some whole else none
  | zero => if c = '.' then some point else if c = 'e' ∨ c = 'E' then some mark else none
  | whole =>
      if c.isDigit then some whole
      else if c = '.' then some point
      else if c = 'e' ∨ c = 'E' then some mark else none
  | point => if c.isDigit then some fraction else none
  | fraction =>
      if c.isDigit then some fraction else if c = 'e' ∨ c = 'E' then some mark else none
  | mark =>
      if c.isDigit then some power else if c = '+' ∨ c = '-' then some markSign else none
  | markSign | power => if c.isDigit then some power else none

/-- Whether a literal may end after this part. -/
def complete : NumberPart → Bool
  | zero | whole | fraction | power => true
  | _ => false

/-- The value of a literal that ended after `part`. -/
def value (part : NumberPart) (written : List Char) : Value :=
  let exact :=
    if part = zero ∨ part = whole then
      match written with
      | '-' :: digits =>
          (Text.digits? digits).bind fun n => if n = 0 then none else some (-(n : Int))
      | digits => (Text.digits? digits).map Int.ofNat
    else none
  match exact with
  | some n => .int n
  | none => .real (String.ofList written)

end NumberPart

/-- What the scanner is in the middle of.  Collected characters and units stand
in reverse. -/
inductive Mode where
  | between
  | word (letters : List Char)
  | number (part : NumberPart) (written : List Char)
  | text (units : List TextUnit)
  | escape (units : List TextUnit)
  | code (units : List TextUnit) (digits value : Nat)
deriving DecidableEq, Repr

/-- The token of a bare word. -/
def wordToken? (letters : List Char) : Option Token :=
  match String.ofList letters with
  | "null" => some (.literal .null)
  | "true" => some (.literal (.bool true))
  | "false" => some (.literal (.bool false))
  | _ => none

/-- The unit of a one-letter escape. -/
def escapeUnit? : Char → Option TextUnit
  | '"' => some (.char '"')
  | '\\' => some (.char '\\')
  | '/' => some (.char '/')
  | 'b' => some (.char '\x08')
  | 'f' => some (.char '\x0c')
  | 'n' => some (.char '\n')
  | 'r' => some (.char '\r')
  | 't' => some (.char '\t')
  | _ => none

namespace Mode

/-- The tokens that end with the text, if the text may end here. -/
def close? : Mode → Option (List Token)
  | between => some []
  | word letters => (wordToken? letters.reverse).map ([·])
  | number part written =>
      if part.complete then some [.literal (part.value written.reverse)] else none
  | _ => none

/-- Reads a character that begins something new. -/
def start? (c : Char) : Option (Mode × List Token) :=
  match c with
  | ' ' | '\t' | '\n' | '\r' => some (between, [])
  | '[' => some (between, [.openList])
  | ']' => some (between, [.closeList])
  | '\x7b' => some (between, [.openObject])
  | '\x7d' => some (between, [.closeObject])
  | ',' => some (between, [.comma])
  | ':' => some (between, [.colon])
  | '"' => some (text [], [])
  | '-' => some (number .sign ['-'], [])
  | '0' => some (number .zero ['0'], [])
  | _ =>
      if c.isDigit then some (number .whole [c], [])
      else if 'a' ≤ c ∧ c ≤ 'z' then some (word [c], [])
      else none

/-- Ends what is under way, then reads `c` as a beginning. -/
def restart? (mode : Mode) (c : Char) : Option (Mode × List Token) := do
  let ended ← mode.close?
  let (next, tokens) ← start? c
  return (next, ended ++ tokens)

/-- One character: the mode after it and the tokens it completes. -/
def step? (mode : Mode) (c : Char) : Option (Mode × List Token) :=
  match mode with
  | between => start? c
  | word letters =>
      if 'a' ≤ c ∧ c ≤ 'z' then some (word (c :: letters), []) else mode.restart? c
  | number part written =>
      match part.next? c with
      | some next => some (number next (c :: written), [])
      | none => mode.restart? c
  | text units =>
      if c = '"' then
        some (between, [.text ((TextUnit.chars? units.reverse).map String.ofList)])
      else if c = '\\' then some (escape units, [])
      else if c.toNat < 0x20 then none
      else some (text (.char c :: units), [])
  | escape units =>
      if c = 'u' then some (code units 0 0, [])
      else (escapeUnit? c).map fun unit => (text (unit :: units), [])
  | code units digits value =>
      (Text.hexDigit? c).map fun d =>
        if digits = 3 then (text (TextUnit.ofCode (16 * value + d) :: units), [])
        else (code units (digits + 1) (16 * value + d), [])

end Mode

/-- The scanner part way through a text, its tokens in reverse. -/
structure Scan where
  mode : Mode
  tokens : List Token

def Scan.step? (scan : Scan) (c : Char) : Option Scan := do
  let (mode, tokens) ← scan.mode.step? c
  return ⟨mode, tokens.reverse ++ scan.tokens⟩

/-- The tokens of a whole text. -/
def tokens? (chars : List Char) : Option (List Token) := do
  let scan ← chars.foldlM Scan.step? ⟨.between, []⟩
  let ended ← scan.mode.close?
  return (ended.reverse ++ scan.tokens).reverse

end QuorumNode.Json
