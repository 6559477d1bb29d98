/-
Sets of bytes, as words of 256 bits, and the named classes among them.
-/
import QuorumNode.Pattern.Term

namespace QuorumNode.Pattern

/-- The bit of a byte says whether it belongs to the set. -/
abbrev ByteSet := BitVec 256

namespace ByteSet

/-- The bytes from `low` to `high`. -/
def range (low high : Nat) : ByteSet :=
  BitVec.ofNat 256 (((1 <<< (high + 1 - low)) - 1) <<< low)

def chars (low high : Char) : ByteSet := range low.toNat high.toNat

def single (c : Char) : ByteSet := chars c c

def union (sets : List ByteSet) : ByteSet := sets.foldl (· ||| ·) 0

/-- The set with both cases of its letters. -/
def foldCase (s : ByteSet) : ByteSet :=
  s ||| ((s &&& chars 'A' 'Z') <<< 32) ||| ((s &&& chars 'a' 'z') >>> 32)

def isAscii (s : ByteSet) : Bool := s >>> 128 == 0

def combine (op : SetOp) (s t : ByteSet) : ByteSet :=
  match op with
  | .intersection => s &&& t
  | .difference => s &&& ~~~t
  | .symmetricDifference => s ^^^ t

end ByteSet

open ByteSet

def NamedClass.bytes : NamedClass → ByteSet
  | alnum => union [chars '0' '9', chars 'A' 'Z', chars 'a' 'z']
  | alpha => chars 'A' 'Z' ||| chars 'a' 'z'
  | ascii => range 0 0x7f
  | blank => single ' ' ||| single '\t'
  | cntrl => range 0 0x1f ||| range 0x7f 0x7f
  | digit => chars '0' '9'
  | graph => chars '!' '~'
  | lower => chars 'a' 'z'
  | print => chars ' ' '~'
  | punct => union [chars '!' '/', chars ':' '@', chars '[' (Char.ofNat 0x60), chars '\x7b' '~']
  | space => single ' ' ||| range 0x09 0x0d
  | upper => chars 'A' 'Z'
  | word => union [chars '0' '9', chars 'A' 'Z', single '_', chars 'a' 'z']
  | xdigit => union [chars '0' '9', chars 'A' 'F', chars 'a' 'f']

def Shorthand.bytes : Shorthand → ByteSet
  | digit => NamedClass.digit.bytes
  | space => NamedClass.space.bytes
  | word => NamedClass.word.bytes

end QuorumNode.Pattern
