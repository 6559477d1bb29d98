/-
Decimal numerals over the ten digits of ASCII, and hexadecimal digits.  A
numeral may have any number of leading zeros; its value is exact, and a bound is
checked on the value and not on the length.
-/

namespace QuorumNode.Text

/-- The value of one decimal digit. -/
def digit? (c : Char) : Option Nat :=
  if '0' ≤ c ∧ c ≤ '9' then some (c.toNat - '0'.toNat) else none

/-- The value of a digit string, each digit in its base-ten place. -/
def valueOfDigits (digits : List Nat) : Nat :=
  digits.foldl (fun value d => 10 * value + d) 0

/-- Reads one or more digits and nothing else. -/
def digits? (text : List Char) : Option Nat :=
  if text = [] then none else (text.mapM digit?).map valueOfDigits

/-- Reads a numeral with an optional leading plus sign. -/
def numeral? : List Char → Option Nat
  | '+' :: text => digits? text
  | text => digits? text

/-- Reads a numeral whose value is below `bound`. -/
def numeralBelow? (bound : Nat) (text : List Char) : Option Nat :=
  (numeral? text).filter (· < bound)

/-- The value of a hexadecimal digit of either case. -/
def hexDigit? (c : Char) : Option Nat :=
  (List.range 16).find? fun value => Nat.digitChar value == c.toLower

end QuorumNode.Text
