/-
How a string is written in TOML.  There are four styles; the plainest one that
can hold the string is taken, and only when none can are escapes written.
-/
import QuorumNode.Text.Numeral

namespace QuorumNode.Toml

inductive Style where
  | basic
  | literal
  | basicBlock
  | literalBlock
deriving DecidableEq, Repr

/-- The longest run of `mark`. -/
def longestRun (mark : Char) (chars : List Char) : Nat :=
  (chars.foldl (fun (run, longest) c =>
    if c = mark then (run + 1, max (run + 1) longest) else (0, longest)) (0, 0)).2

/-- A control character that no style but the escaping ones can hold; a tab and
a line feed are not among them. -/
def isHardControl (c : Char) : Bool :=
  (c.toNat < 0x20 && c != '\t' && c != '\n') || c.toNat == 0x7f

/-- The style a string is written in. -/
def Style.choose (chars : List Char) : Style :=
  let control := chars.any isHardControl
  let backslash := chars.contains '\\'
  let newline := chars.contains '\n'
  let single := longestRun '\'' chars
  let double := longestRun '"' chars
  if !control && !backslash && !newline && double == 0 then basic
  else if !control && !newline && single == 0 then literal
  else if !control && !backslash && double ≤ 2 then basicBlock
  else if !control && single ≤ 2 then literalBlock
  else if newline then basicBlock
  else basic

namespace Style

def delimiter : Style → String
  | basic => "\""
  | literal => "'"
  | basicBlock => "\"\"\""
  | literalBlock => "'''"

def isBlock : Style → Bool
  | basicBlock | literalBlock => true
  | _ => false

def escapes : Style → Bool
  | basic | basicBlock => true
  | _ => false

end Style

/-- A code point as an escape of four digits. -/
def codeEscape (c : Char) : String :=
  String.ofList ('\\' :: 'u' :: [0x1000, 0x100, 0x10, 1].map fun place =>
    (Nat.digitChar (c.toNat / place % 16)).toUpper)

/-- The escape of a character, where it needs one.  A quotation mark needs one
when `quotes` of them already stand before it, as many as the style bears. -/
def escape? (style : Style) (quotes : Nat) (c : Char) : Option String :=
  match c with
  | '\x08' => some "\\b"
  | '\t' => some "\\t"
  | '\n' => if style.isBlock then none else some "\\n"
  | '\x0c' => some "\\f"
  | '\r' => some "\\r"
  | '"' => if quotes < (if style.isBlock then 2 else 0) then none else some "\\\""
  | '\\' => some "\\\\"
  | _ => if isHardControl c then some (codeEscape c) else none

/-- Writes characters with their escapes; `quotes` counts the quotation marks
written plainly right before. -/
def escaped (style : Style) : Nat → List Char → List String
  | _, [] => []
  | quotes, c :: rest =>
      match escape? style quotes c with
      | some written => written :: escaped style 0 rest
      | none => c.toString :: escaped style (if c = '"' then quotes + 1 else 0) rest

/-- A string in TOML.  A block that has more than one line begins on a line of
its own. -/
def quoted (s : String) : String :=
  let style := Style.choose s.toList
  let body := if style.escapes then String.join (escaped style 0 s.toList) else s
  let lead := if style.isBlock && s.toList.contains '\n' then "\n" else ""
  style.delimiter ++ lead ++ body ++ style.delimiter

end QuorumNode.Toml
