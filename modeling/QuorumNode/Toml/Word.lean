/-
Bare words of TOML as values: truth values, integers of 64 bits in four bases,
floats, which are kept as written, dates and times.  Underscores may stand
between digits.
-/
import QuorumNode.Data.Record
import QuorumNode.Toml.Moment

namespace QuorumNode.Toml

open QuorumNode.Data

/-- Digits without the underscores between them. -/
def plainDigits? (isDigit : Char → Bool) (chars : List Char) : Option (List Char) :=
  go false chars
where
  go : Bool → List Char → Option (List Char)
    | afterDigit, [] => if afterDigit then some [] else none
    | afterDigit, c :: rest =>
        if isDigit c then (go true rest).map (c :: ·)
        else if c = '_' ∧ afterDigit ∧ rest.head?.any isDigit then go false rest
        else none

/-- A whole number without a superfluous zero in front. -/
def whole? (chars : List Char) : Option Nat := do
  let digits ← plainDigits? Char.isDigit chars
  if digits.head? = some '0' ∧ digits.length ≠ 1 then none
  else Text.digits? digits

/-- A number in base two, eight or sixteen. -/
def inBase? (base : Nat) (chars : List Char) : Option Nat := do
  let digits ← plainDigits? (fun c => (Text.hexDigit? c).any (· < base)) chars
  let values ← digits.mapM Text.hexDigit?
  return values.foldl (fun value d => base * value + d) 0

/-- The sign in front of a number, and the rest. -/
def splitSign : List Char → Int × List Char
  | '-' :: rest => (-1, rest)
  | '+' :: rest => (1, rest)
  | rest => (1, rest)

def integer? (chars : List Char) : Option Int :=
  match chars with
  | '0' :: 'x' :: digits => (inBase? 16 digits).map Int.ofNat
  | '0' :: 'o' :: digits => (inBase? 8 digits).map Int.ofNat
  | '0' :: 'b' :: digits => (inBase? 2 digits).map Int.ofNat
  | _ =>
      let (sign, digits) := splitSign chars
      (whole? digits).map fun n => sign * n

/-- The power of ten after the mark of a float. -/
def isExponent (chars : List Char) : Bool :=
  (plainDigits? Char.isDigit (splitSign chars).2).isSome

/-- Whether the characters are a float: a fraction, a power, or both. -/
def isFloat (chars : List Char) : Bool :=
  let unsigned := (splitSign chars).2
  let (front, back) := unsigned.span fun c => c != 'e' && c != 'E'
  let (before, after) := front.span (· != '.')
  let fraction := (plainDigits? Char.isDigit (after.drop 1)).isSome
  unsigned == "inf".toList || unsigned == "nan".toList ||
    ((whole? before).isSome &&
      (match after, back with
        | [], [] => false
        | [], _ => isExponent (back.drop 1)
        | _, [] => fraction
        | _, _ => fraction && isExponent (back.drop 1)))

/-- The digits of a float without underscores, the number of them behind the
point, and the power of ten. -/
def floatParts (unsigned : List Char) : List Nat × Nat × Int :=
  let (front, back) := unsigned.span fun c => c != 'e' && c != 'E'
  let (before, behind) := front.span (· != '.')
  let (sign, power) := splitSign (back.drop 1)
  let digits := fun (chars : List Char) => chars.filterMap Text.digit?
  (digits before ++ digits behind, (digits behind).length,
    sign * Text.valueOfDigits (digits power))

/-- Half a unit in the last place above the largest double: what is not below it
rounds to infinity. -/
def overflowBound : Nat := (1 <<< 1024) - (1 <<< 970)

/-- Whether a float without a sign is too large for a double.  A number with
more than 310 digits before its point is; powers of ten are computed only for
numbers near the bound. -/
def overflows (unsigned : List Char) : Bool :=
  let (digits, decimals, power) := floatParts unsigned
  let significant := digits.dropWhile (· == 0)
  let scale : Int := power - decimals
  let size : Int := scale + significant.length
  if significant.isEmpty || size < 300 then false
  else if 310 < size then true
  else
    let mantissa := Text.valueOfDigits significant
    if 0 ≤ scale then overflowBound ≤ mantissa * Nat.pow 10 scale.toNat
    else overflowBound * Nat.pow 10 (-scale).toNat ≤ mantissa

/-- Floats may be infinite when they say so, and negative ones also when they are
too large. -/
def isFiniteFloat (chars : List Char) : Bool :=
  isFloat chars &&
    (match splitSign chars with
      | (1, unsigned) => !overflows unsigned
      | _ => true)

/-- The value of a date or time: an object with one member, so a record without
any of its fields. -/
def ofMoment (written : List Char) : Value :=
  .object [(some "moment", .ofString (String.ofList written))]

/-- The value of a bare word; an integer that needs more than 64 bits has
none. -/
def wordValue? (chars : List Char) : Option Value :=
  if chars = "true".toList then some (.bool true)
  else if chars = "false".toList then some (.bool false)
  else if isMoment chars then some (ofMoment chars)
  else
    match integer? chars with
    | some n => (Value.int n).int64?.map .int
    | none => if isFiniteFloat chars then some (.real (String.ofList chars)) else none

end QuorumNode.Toml
