/-
Dates and times of day as TOML writes them.  Only their form is judged, and that
the day is in the calendar; nothing is computed with them.
-/
import QuorumNode.Text.Numeral

namespace QuorumNode.Toml

/-- A number of exactly two digits from `low` to `high`, and what follows. -/
def twoDigits? (low high : Nat) : List Char → Option (Nat × List Char)
  | tens :: units :: rest => do
      let n := 10 * (← Text.digit? tens) + (← Text.digit? units)
      if low ≤ n ∧ n ≤ high then some (n, rest) else none
  | _ => none

/-- What follows one character. -/
def after? (c : Char) : List Char → Option (List Char)
  | first :: rest => if first = c then some rest else none
  | [] => none

def isLeapYear (year : Nat) : Bool :=
  year % 4 == 0 && (year % 100 != 0 || year % 400 == 0)

def daysIn (year month : Nat) : Nat :=
  if month = 2 then (if isLeapYear year then 29 else 28)
  else if [4, 6, 9, 11].contains month then 30
  else 31

/-- What follows a date. -/
def afterDate? (chars : List Char) : Option (List Char) := do
  let (century, rest) ← twoDigits? 0 99 chars
  let (decade, rest) ← twoDigits? 0 99 rest
  let (month, rest) ← twoDigits? 1 12 (← after? '-' rest)
  let (_, rest) ← twoDigits? 1 (daysIn (100 * century + decade) month) (← after? '-' rest)
  return rest

/-- What follows a time of day.  A minute may have sixty-one seconds, and a
second any number of decimals. -/
def afterTime? (chars : List Char) : Option (List Char) := do
  let (_, rest) ← twoDigits? 0 23 chars
  let (_, rest) ← twoDigits? 0 59 (← after? ':' rest)
  let (_, rest) ← twoDigits? 0 60 (← after? ':' rest)
  match rest with
  | '.' :: digit :: decimals =>
      if digit.isDigit then return decimals.dropWhile Char.isDigit else none
  | _ => return rest

/-- Whether the characters are the distance of a local time from universal
time; there need not be one. -/
def isOffset : List Char → Bool
  | [] | ['Z'] | ['z'] => true
  | sign :: chars =>
      (sign == '+' || sign == '-') &&
        (do
          let (_, rest) ← twoDigits? 0 23 chars
          let (_, rest) ← twoDigits? 0 59 (← after? ':' rest)
          return rest) == some []

/-- A time of day that goes with a date. -/
def isClock (chars : List Char) : Bool :=
  (afterTime? chars).any isOffset

def isDate (chars : List Char) : Bool :=
  afterDate? chars == some []

/-- A date, a time of day, or both with the letter T between them. -/
def isMoment (chars : List Char) : Bool :=
  isDate chars || afterTime? chars == some [] ||
    (afterDate? chars).any fun rest =>
      match rest with
      | 'T' :: clock | 't' :: clock => isClock clock
      | _ => false

end QuorumNode.Toml
