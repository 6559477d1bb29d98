/-
Compact JSON text.  Only quotation marks, backslashes and control characters
are escaped, so every other character stands for itself.
-/
import QuorumNode.Data.Value

namespace QuorumNode.Json

open QuorumNode.Data

/-- A character inside a string. -/
def escaped (c : Char) : String :=
  match c with
  | '"' => "\\\""
  | '\\' => "\\\\"
  | '\n' => "\\n"
  | '\r' => "\\r"
  | '\t' => "\\t"
  | _ =>
      if c.toNat < 0x20 then
        String.ofList ['\\', 'u', '0', '0', Nat.digitChar (c.toNat / 16),
          Nat.digitChar (c.toNat % 16)]
      else c.toString

def quoted (s : String) : String :=
  s.toList.foldl (fun written c => written ++ escaped c) "\"" ++ "\""

/-- A string that is no text is written as half of a surrogate pair. -/
def quotedContent : Option String → String
  | some s => quoted s
  | none => "\"\\ud800\""

mutual

def render : Value → String
  | .null => "null"
  | .bool true => "true"
  | .bool false => "false"
  | .int n => toString n
  | .real written => written
  | .text content => quotedContent content
  | .list items => "[" ++ ",".intercalate (renderItems items) ++ "]"
  | .object members => "\x7b" ++ ",".intercalate (renderMembers members) ++ "\x7d"

def renderItems : List Value → List String
  | [] => []
  | v :: rest => render v :: renderItems rest

def renderMembers : List (Option String × Value) → List String
  | [] => []
  | (name, v) :: rest => (quotedContent name ++ ":" ++ render v) :: renderMembers rest

end

end QuorumNode.Json
