/-
Whether a log level is one the program can work with.  It is a list of
directives between commas: a level, or a target, or both, or a span in brackets
whose fields may be matched.  A text that is no level is a target.

A directive is scanned without the blanks around it, but its parts are cut out of
it as written, at the same offsets in bytes.  Leading blanks so shift the parts,
and a cut may fall inside a character.
-/
import QuorumNode.Pattern.Check
import QuorumNode.Text.Bytes

namespace QuorumNode.Cli.LogFilter

inductive Error where
  | directive
  | level
  | field (pattern : List Char) (cause : Pattern.Failure)
  | brokenCharacter
deriving DecidableEq, Repr

namespace Error

def levelMessage : String :=
  "error parsing level filter: expected one of \"off\", \"error\", \"warn\", " ++
    "\"info\", \"debug\", \"trace\", or a number 0-5"

/-- The messages of the causes, each the cause of the one before. -/
def causes : Error → List String
  | directive | brokenCharacter => []
  | level => [levelMessage]
  | field pattern cause => cause.messages pattern

def message : Error → String
  | directive => "invalid filter directive"
  | level => levelMessage
  | field pattern cause => "invalid field filter: " ++ ((cause.messages pattern).headD "")
  | brokenCharacter => "byte index is not a char boundary"

end Error

/-- Level names ignore case; an empty one stands for a default. -/
def isLevel (chars : List Char) : Bool :=
  (Text.numeralBelow? 6 chars).isSome ||
    ["", "off", "error", "warn", "info", "debug", "trace"].any
      (Text.sameLetters · (String.ofList chars))

/-- A directive begins with a bracket, a letter or number of any script, or one of
three signs. -/
def startsTarget (c : Char) : Bool :=
  c == '-' || c == ':' || c == '_' || Text.isAlphanumeric c

/-- Digits with at most one point, and maybe a power of ten behind them. -/
def isDecimal (unsigned : List Char) : Bool :=
  let (front, back) := unsigned.span fun c => c != 'e' && c != 'E'
  let (whole, point) := front.span (· != '.')
  let digits := whole ++ point.drop 1
  let power := match back.drop 1 with
    | '+' :: digits | '-' :: digits => digits
    | digits => digits
  !digits.isEmpty && digits.all Char.isDigit &&
    (back.isEmpty || (!power.isEmpty && power.all Char.isDigit))

/-- Values of a field that are compared as they are: truth values and numbers, of
which some are not finite. -/
def isPlainValue (value : List Char) : Bool :=
  let unsigned := match value with
    | '+' :: rest | '-' :: rest => rest
    | rest => rest
  value == "true".toList || value == "false".toList || isDecimal unsigned ||
    ["inf", "infinity", "nan"].any (Text.sameLetters · (String.ofList unsigned))

/-- One field: a name, and behind a sign of equality a value or a pattern for
it.  A second such sign ends the pattern. -/
def checkField (field : List Char) : Except Error Unit :=
  if field.isEmpty then .error .directive
  else
    match field.dropWhile (· != '=') with
    | '=' :: rest =>
        let value := rest.takeWhile (· != '=')
        if isPlainValue value then .ok ()
        else (Pattern.check value).mapError (.field value)
    | _ => .ok ()

/-- What a directive is in the middle of; `start` is the offset where that
began. -/
inductive Stage where
  | beginning
  | target (start : Nat)
  | span (start : Nat)
  | field (start : Nat)
  | fieldsEnd
  | spanEnd
  | level (start : Nat)
deriving DecidableEq, Repr

/-- A part of a directive as written. -/
def cut (written : List Char) (start stop : Nat) : Except Error (List Char) :=
  match Text.sliceBytes? start stop written with
  | some part => .ok part
  | none => .error .brokenCharacter

/-- One character, which stands at `offset`. -/
def Stage.step (written : List Char) (offset : Nat) (c : Char) :
    Stage → Except Error Stage
  | beginning =>
      if c = '[' then .ok (span (offset + 1))
      else if startsTarget c then .ok (target offset)
      else .error .directive
  | target start =>
      if c = '=' then (cut written start offset).map fun _ => level (offset + 1)
      else if c = '[' then (cut written start offset).map fun _ => span (offset + 1)
      else .ok (target start)
  | span start =>
      if c = ']' then (cut written start offset).map fun _ => spanEnd
      else if c = '\x7b' then (cut written start offset).map fun _ => field (offset + 1)
      else .ok (span start)
  | field start =>
      if c = '\x7d' then do
        checkField (← cut written start offset)
        return fieldsEnd
      else .ok (field start)
  | fieldsEnd => if c = ']' then .ok spanEnd else .error .directive
  | spanEnd => if c = '=' then .ok (level (offset + 1)) else .error .directive
  | level start => .ok (level start)

/-- The directive ends here. -/
def Stage.finish (written : List Char) : Stage → Except Error Unit
  | target start => (cut written start (Text.byteLength written)).map fun _ => ()
  | spanEnd => .ok ()
  | level start => do
      if isLevel (← cut written start (Text.byteLength written)) then return ()
      else throw .level
  | beginning | span _ | field _ | fieldsEnd => .error .directive

/-- Reads the characters of a directive from an offset on. -/
def Stage.run (written : List Char) : Nat → List Char → Stage → Except Error Unit
  | _, [], stage => stage.finish written
  | offset, c :: rest, stage => do
      run written (offset + c.utf8Size) rest (← stage.step written offset c)

/-- One directive. -/
def checkDirective (written : List Char) : Except Error Unit :=
  Stage.beginning.run written 0 (Text.trim written)

/-- Every directive that is not empty must be sound; the first that is not
decides. -/
def check (level : String) : Except Error Unit :=
  ((level.splitOn ",").filter (· ≠ "")).forM fun directive => checkDirective directive.toList

end QuorumNode.Cli.LogFilter
