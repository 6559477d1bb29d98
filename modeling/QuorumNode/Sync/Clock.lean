/-
Clocks that move only when they are told to.  A clock reads a dial; a clone
reads the dial of the clock it was cloned from, so both always agree.
-/

namespace QuorumNode.Sync

/-- `dials` hold times in seconds; each clock is the number of its dial. -/
structure Clocks where
  dials : List Int
  clocks : List Nat
deriving DecidableEq, Repr

/-- A time plus some seconds, wrapped into the range of 64-bit integers. -/
def moved (time seconds : Int) : Int :=
  (time + seconds).bmod 0x10000000000000000

namespace Clocks

/-- One clock on a dial of its own. -/
def single (start : Int) : Clocks := ⟨[start], [0]⟩

/-- Changes the dial of one clock; a clock that does not exist has none. -/
def onDial (wall : Clocks) (clock : Nat) (f : Int → Int) : Clocks :=
  match wall.clocks[clock]? with
  | some dial => { wall with dials := wall.dials.modify dial f }
  | none => wall

def set (wall : Clocks) (clock : Nat) (now : Int) : Clocks :=
  wall.onDial clock fun _ => now

def advance (wall : Clocks) (clock : Nat) (seconds : Int) : Clocks :=
  wall.onDial clock (moved · seconds)

/-- Adds a clock that reads the same dial. -/
def clone (wall : Clocks) (clock : Nat) : Clocks :=
  { wall with clocks := wall.clocks ++ wall.clocks[clock]?.toList }

/-- Adds a clock on a new dial that shows zero. -/
def add (wall : Clocks) : Clocks :=
  ⟨wall.dials ++ [0], wall.clocks ++ [wall.dials.length]⟩

/-- What every clock shows. -/
def readings (wall : Clocks) : List Int :=
  wall.clocks.filterMap (wall.dials[·]?)

end Clocks

end QuorumNode.Sync
