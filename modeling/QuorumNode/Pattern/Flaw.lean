/-
What can be wrong with a pattern, and the report that shows the place: the lines
of the pattern with carets under them.
-/
import QuorumNode.Pattern.Span

namespace QuorumNode.Pattern

/-- The causes.  Where something is given twice, `first` is where it was given
before. -/
inductive Fault where
  | classEscape
  | classRangeOrder
  | classRangeBoundary
  | classUnclosed
  | decimalEmpty
  | decimalTooLarge
  | hexEmpty
  | hexNoCharacter
  | hexDigit
  | escapeUnfinished
  | escapeUnknown
  | switchDanglingNegation
  | switchTwice (first : Span)
  | switchNegationTwice (first : Span)
  | switchUnfinished
  | switchUnknown
  | nameTwice (first : Span)
  | nameEmpty
  | nameCharacter
  | nameUnclosed
  | groupUnclosed
  | groupUnopened
  | nesting (limit : Nat)
  | countOrder
  | countEmpty
  | countUnclosed
  | repetitionOfNothing
  | boundaryUnclosed
  | boundaryUnknown
  | boundaryOrCountUnfinished
  | propertyInvalid
  | backreference
  | lookAround
  | unicodeNotAllowed
  | brokenEncoding
  | propertyUnknown
  | propertyValueUnknown
  | shorthandUnavailable
  | caseUnavailable
deriving DecidableEq, Repr

namespace Fault

def message : Fault → String
  | classEscape => "invalid escape sequence found in character class"
  | classRangeOrder => "invalid character class range, the start must be <= the end"
  | classRangeBoundary => "invalid range boundary, must be a literal"
  | classUnclosed => "unclosed character class"
  | decimalEmpty => "decimal literal empty"
  | decimalTooLarge => "decimal literal invalid"
  | hexEmpty => "hexadecimal literal empty"
  | hexNoCharacter => "hexadecimal literal is not a Unicode scalar value"
  | hexDigit => "invalid hexadecimal digit"
  | escapeUnfinished => "incomplete escape sequence, reached end of pattern prematurely"
  | escapeUnknown => "unrecognized escape sequence"
  | switchDanglingNegation => "dangling flag negation operator"
  | switchTwice _ => "duplicate flag"
  | switchNegationTwice _ => "flag negation operator repeated"
  | switchUnfinished => "expected flag but got end of regex"
  | switchUnknown => "unrecognized flag"
  | nameTwice _ => "duplicate capture group name"
  | nameEmpty => "empty capture group name"
  | nameCharacter => "invalid capture group character"
  | nameUnclosed => "unclosed capture group name"
  | groupUnclosed => "unclosed group"
  | groupUnopened => "unopened group"
  | nesting limit =>
      "exceed the maximum number of nested parentheses/brackets (" ++ toString limit ++ ")"
  | countOrder => "invalid repetition count range, the start must be <= the end"
  | countEmpty => "repetition quantifier expects a valid decimal"
  | countUnclosed => "unclosed counted repetition"
  | repetitionOfNothing => "repetition operator missing expression"
  | boundaryUnclosed =>
      "special word boundary assertion is either unclosed or contains an invalid character"
  | boundaryUnknown =>
      "unrecognized special word boundary assertion, valid choices are: start, end, " ++
        "start-half or end-half"
  | boundaryOrCountUnfinished =>
      "found either the beginning of a special word boundary or a bounded repetition on a " ++
        "\\b with an opening brace, but no closing brace"
  | propertyInvalid => "invalid Unicode character class"
  | backreference => "backreferences are not supported"
  | lookAround => "look-around, including look-ahead and look-behind, is not supported"
  | unicodeNotAllowed => "Unicode not allowed here"
  | brokenEncoding => "pattern can match invalid UTF-8"
  | propertyUnknown => "Unicode property not found"
  | propertyValueUnknown => "Unicode property value not found"
  | shorthandUnavailable =>
      "Unicode-aware Perl class not found (make sure the unicode-perl feature is enabled)"
  | caseUnavailable =>
      "Unicode-aware case insensitivity matching is not available (make sure the " ++
        "unicode-case feature is enabled)"

/-- The place that belongs to the cause besides its own. -/
def first? : Fault → Option Span
  | switchTwice first | switchNegationTwice first | nameTwice first => some first
  | _ => none

end Fault

structure Flaw where
  span : Span
  fault : Fault
deriving DecidableEq, Repr

namespace Flaw

/-- The places to show, in order. -/
def spans (flaw : Flaw) : List Span :=
  match flaw.fault.first? with
  | none => [flaw.span]
  | some first => if first.before flaw.span then [first, flaw.span] else [flaw.span, first]

/-- The lines of a text.  A carriage return before a line feed belongs to the line
end, and nothing behind the last line feed is no line. -/
def lines (text : List Char) : List (List Char) :=
  go [] text
where
  go : List Char → List Char → List (List Char)
    | [], [] => []
    | line, [] => [line.reverse]
    | line, '\n' :: rest =>
        (match line with
          | '\r' :: line => line.reverse
          | line => line.reverse) :: go [] rest
    | line, c :: rest => go (c :: line) rest

/-- How many digits line numbers take; none are written for a single line. -/
def numberWidth (text : List Char) : Nat :=
  let count := text.count '\n' + 1
  if count ≤ 1 then 0 else (toString count).length

/-- Carets from column to column, at least one for each span. -/
def carets : Nat → List Span → List Char
  | _, [] => []
  | column, span :: rest =>
      let gap := span.start.column - 1 - column
      let length := max 1 (span.stop.column - span.start.column)
      List.replicate gap ' ' ++ List.replicate length '^' ++ carets (column + gap + length) rest

/-- A line as the report shows it, with the carets under it. -/
def shown (width : Nat) (spans : List Span) (number : Nat) (line : List Char) : List Char :=
  let written := (toString number).toList
  let lead :=
    if width = 0 then [' ', ' ', ' ', ' ']
    else List.replicate (width - written.length) ' ' ++ written ++ [':', ' ']
  let marked := spans.filter fun span => span.isOneLine && span.start.line == number
  lead ++ line ++ ['\n'] ++
    if marked.isEmpty then []
    else List.replicate lead.length ' ' ++ carets 0 marked ++ ['\n']

/-- All lines of the pattern. -/
def listing (flaw : Flaw) (text : List Char) : List Char :=
  ((lines text).zipIdx 1).flatMap fun (line, number) =>
    shown (numberWidth text) flaw.spans number line

/-- Where a span that goes over several lines stands. -/
def extent (span : Span) : String :=
  "on line " ++ toString span.start.line ++ " (column " ++ toString span.start.column ++
    ") through line " ++ toString span.stop.line ++ " (column " ++
    toString (span.stop.column - 1) ++ ")\n"

/-- The report for a pattern with this flaw.  A listing of several lines stands
between rules. -/
def report (flaw : Flaw) (text : List Char) : String :=
  let listing := String.ofList (flaw.listing text)
  let body :=
    if text.contains '\n' then
      let rule := String.ofList (List.replicate 79 '~') ++ "\n"
      rule ++ listing ++ rule ++
        String.join ((flaw.spans.filter (!·.isOneLine)).map extent)
    else listing
  "regex parse error:\n" ++ body ++ "error: " ++ flaw.fault.message

end Flaw

end QuorumNode.Pattern
