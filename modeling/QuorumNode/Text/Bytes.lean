/-
Cutting a text at offsets that count bytes of UTF-8.
-/

namespace QuorumNode.Text

/-- The number of bytes of a text. -/
def byteLength (text : List Char) : Nat :=
  text.foldr (fun c n => c.utf8Size + n) 0

/-- The text before and behind its first `n` bytes.  There is no such cut inside
a character or behind the end. -/
def splitAtByte? : Nat → List Char → Option (List Char × List Char)
  | 0, text => some ([], text)
  | _ + 1, [] => none
  | n + 1, c :: rest =>
      if c.utf8Size ≤ n + 1 then
        (splitAtByte? (n + 1 - c.utf8Size) rest).map fun (front, back) => (c :: front, back)
      else none

/-- The text from one offset to another. -/
def sliceBytes? (start stop : Nat) (text : List Char) : Option (List Char) := do
  let (front, _) ← splitAtByte? stop text
  let (_, slice) ← splitAtByte? start front
  return slice

end QuorumNode.Text
