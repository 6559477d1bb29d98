/-
The tokens of TOML text.  As with JSON the scanner is a fold over characters.
A bare word may turn out to be a key, a number or a truth value; which of them
depends on where it stands.
-/
import QuorumNode.Data.Value
import QuorumNode.Text.Numeral

namespace QuorumNode.Toml

/-- A block is a string of several lines, which cannot be a key.  Blanks are
kept, since brackets that stand apart do not mean what a pair of them means. -/
inductive Token where
  | newline
  | blank (c : Char)
  | equals
  | comma
  | openBracket
  | closeBracket
  | openBrace
  | closeBrace
  | word (chars : List Char)
  | text (content : String)
  | block (content : String)
deriving DecidableEq, Repr, Inhabited

/-- The two marks that strings stand between; only one of them knows
escapes. -/
inductive Quote where
  | single
  | double
deriving DecidableEq, Repr

def Quote.char : Quote → Char
  | single => '\''
  | double => '"'

/-- Collected characters stand in reverse; `marks` counts the quotation marks
inside a block that may turn out to end it.  A line feed has to follow a
carriage return, and the two are one line end. -/
inductive Mode where
  | between
  | comment
  | lineFeed (next : Mode) (tokens : List Token)
  | word (chars : List Char)
  | opening (quote : Quote)
  | opened (quote : Quote)
  | line (quote : Quote) (chars : List Char)
  | blockStart (quote : Quote)
  | block (quote : Quote) (chars : List Char) (marks : Nat)
  | escape (inBlock : Bool) (chars : List Char)
  | code (inBlock : Bool) (chars : List Char) (digits value : Nat)
  | joinLines (chars : List Char) (broken : Bool)
deriving DecidableEq, Repr

/-- Characters of bare keys. -/
def isKeyChar (c : Char) : Bool :=
  c.isAlphanum || c == '_' || c == '-'

/-- Characters of bare words. -/
def isWordChar (c : Char) : Bool :=
  isKeyChar c || c == '+' || c == '.' || c == ':'

/-- Control characters are allowed nowhere; a tab is not one of them. -/
def isForbidden (c : Char) : Bool :=
  (c.toNat < 0x20 && c != '\t') || c.toNat == 0x7f

/-- The character of a one-letter escape. -/
def escapeChar? : Char → Option Char
  | '"' => some '"'
  | '\\' => some '\\'
  | 'b' => some '\x08'
  | 't' => some '\t'
  | 'n' => some '\n'
  | 'f' => some '\x0c'
  | 'r' => some '\r'
  | _ => none

/-- The character with a code point, if it is one. -/
def charOfCode? (code : Nat) : Option Char :=
  if code.isValidChar then some (Char.ofNat code) else none

namespace Mode

/-- A string that goes on after an escape. -/
def resume (inBlock : Bool) (chars : List Char) : Mode :=
  if inBlock then block .double chars 0 else line .double chars

/-- The content of a block whose end is reached with `marks` quotation marks,
three of which are its delimiter. -/
def blockContent (quote : Quote) (chars : List Char) (marks : Nat) : String :=
  String.ofList (List.replicate (marks - 3) quote.char ++ chars).reverse

/-- Reads a character that begins something new. -/
def start? (c : Char) : Option (Mode × List Token) :=
  match c with
  | ' ' | '\t' => some (between, [.blank c])
  | '\n' => some (between, [.newline])
  | '\r' => some (lineFeed between [.newline], [])
  | '#' => some (comment, [])
  | '=' => some (between, [.equals])
  | ',' => some (between, [.comma])
  | '[' => some (between, [.openBracket])
  | ']' => some (between, [.closeBracket])
  | '\x7b' => some (between, [.openBrace])
  | '\x7d' => some (between, [.closeBrace])
  | '"' => some (opening .double, [])
  | '\'' => some (opening .single, [])
  | _ => if isWordChar c then some (word [c], []) else none

/-- The tokens that end with the text, if the text may end here. -/
def close? : Mode → Option (List Token)
  | between | comment => some []
  | word chars => some [.word chars.reverse]
  | opened _ => some [.text ""]
  | block quote chars marks =>
      if 3 ≤ marks then some [.block (blockContent quote chars marks)] else none
  | _ => none

/-- Ends what is under way, then reads `c` as a beginning. -/
def restart? (mode : Mode) (c : Char) : Option (Mode × List Token) := do
  let ended ← mode.close?
  let (next, tokens) ← start? c
  return (next, ended ++ tokens)

/-- A character inside a string of one line. -/
def inLine? (quote : Quote) (chars : List Char) (c : Char) : Option (Mode × List Token) :=
  if c = quote.char then some (between, [.text (String.ofList chars.reverse)])
  else if c = '\\' ∧ quote = .double then some (escape false chars, [])
  else if isForbidden c then none
  else some (line quote (c :: chars), [])

/-- A character inside a block.  Up to two quotation marks may stand right
before the three that end it. -/
def inBlock? (quote : Quote) (chars : List Char) (marks : Nat) (c : Char) :
    Option (Mode × List Token) :=
  if c = quote.char then
    if marks = 4 then some (between, [.block (blockContent quote chars 5)])
    else some (block quote chars (marks + 1), [])
  else if 3 ≤ marks then (block quote chars marks).restart? c
  else
    let chars := List.replicate marks quote.char ++ chars
    if c = '\\' ∧ quote = .double then some (escape true chars, [])
    else if c = '\r' then some (lineFeed (block quote ('\n' :: chars) 0) [], [])
    else if isForbidden c ∧ c ≠ '\n' then none
    else some (block quote (c :: chars) 0, [])

/-- One character: the mode after it and the tokens it completes. -/
def step? (mode : Mode) (c : Char) : Option (Mode × List Token) :=
  match mode with
  | between => start? c
  | comment =>
      if c = '\n' ∨ c = '\r' then start? c
      else if isForbidden c then none
      else some (comment, [])
  | lineFeed next tokens => if c = '\n' then some (next, tokens) else none
  | word chars => if isWordChar c then some (word (c :: chars), []) else mode.restart? c
  | opening quote => if c = quote.char then some (opened quote, []) else inLine? quote [] c
  | opened quote => if c = quote.char then some (blockStart quote, []) else mode.restart? c
  | line quote chars => inLine? quote chars c
  | blockStart quote =>
      if c = '\n' then some (block quote [] 0, [])
      else if c = '\r' then some (lineFeed (block quote [] 0) [], [])
      else inBlock? quote [] 0 c
  | block quote chars marks => inBlock? quote chars marks c
  | escape inBlock chars =>
      if c = 'u' then some (code inBlock chars 4 0, [])
      else if c = 'U' then some (code inBlock chars 8 0, [])
      else if inBlock ∧ (c = '\n' ∨ c = ' ' ∨ c = '\t') then
        some (joinLines chars (c = '\n'), [])
      else if inBlock ∧ c = '\r' then some (lineFeed (joinLines chars true) [], [])
      else (escapeChar? c).map fun meant => (resume inBlock (meant :: chars), [])
  | code inBlock chars digits value => do
      let d ← Text.hexDigit? c
      if digits = 1 then
        let meant ← charOfCode? (16 * value + d)
        return (resume inBlock (meant :: chars), [])
      else return (code inBlock chars (digits - 1) (16 * value + d), [])
  | joinLines chars broken =>
      if c = ' ' ∨ c = '\t' then some (joinLines chars broken, [])
      else if c = '\n' then some (joinLines chars true, [])
      else if c = '\r' then some (lineFeed (joinLines chars true) [], [])
      else if broken then inBlock? .double chars 0 c
      else none

end Mode

/-- The scanner part way through a text, its tokens in reverse. -/
structure Scan where
  mode : Mode
  tokens : List Token

def Scan.step? (scan : Scan) (c : Char) : Option Scan := do
  let (mode, tokens) ← scan.mode.step? c
  return ⟨mode, tokens.reverse ++ scan.tokens⟩

/-- The tokens of a whole text, which ends with a line even if the last line
feed is missing. -/
def tokens? (chars : List Char) : Option (List Token) := do
  let scan ← chars.foldlM Scan.step? ⟨.between, []⟩
  let ended ← scan.mode.close?
  return (.newline :: (ended.reverse ++ scan.tokens)).reverse

end QuorumNode.Toml
