/-
Block identity: 256-bit hashes with their hexadecimal and byte forms, and
references to blocks by height and hash.
-/
import QuorumNode.Data.Record
import QuorumNode.Text.Numeral

namespace QuorumNode

/-- A 256-bit digest.  The first byte of its written form is the most
significant one. -/
structure Hash where
  word : BitVec 256
deriving DecidableEq, Repr

namespace Hash

/-- The 32 bytes, most significant first. -/
def bytes (h : Hash) : List Nat :=
  (List.range 32).map fun i => (h.word.toNat >>> (8 * (31 - i))) % 256

/-- The hash with the given bytes; refuses any other count than 32 and any
number that is not a byte. -/
def ofBytes? (bytes : List Nat) : Option Hash :=
  if bytes.length = 32 ∧ ∀ b ∈ bytes, b < 256 then
    some ⟨BitVec.ofNat 256 (bytes.foldl (fun word b => 256 * word + b) 0)⟩
  else none

/-- The 64 hexadecimal digits in lower case. -/
def hex (h : Hash) : String :=
  String.ofList ((List.range 64).map fun i =>
    Nat.digitChar ((h.word.toNat >>> (4 * (63 - i))) % 16))

/-- Reads exactly 64 hexadecimal digits of either case. -/
def ofHex? (s : String) : Option Hash :=
  if s.length = 64 then
    (s.toList.mapM Text.hexDigit?).map fun digits =>
      ⟨BitVec.ofNat 256 (digits.foldl (fun word d => 16 * word + d) 0)⟩
  else none

/-- As data a hash is the list of its bytes. -/
def toData (h : Hash) : Data.Value := .ofList .ofNat h.bytes

def ofData? (v : Data.Value) : Option Hash :=
  (v.listOf? (·.nat8?)).bind ofBytes?

end Hash

/-- A block header or block, known by its height and its hash. -/
structure BlockRef where
  height : Nat
  hash : Hash
deriving DecidableEq, Repr

/-- Written as hash, at sign, height. -/
def BlockRef.text (block : BlockRef) : String :=
  s!"{block.hash.hex}@{block.height}"

namespace BlockRef

def fields : List String := ["height", "hash"]

def toData (block : BlockRef) : Data.Value :=
  .ofFields [("height", .ofNat block.height), ("hash", block.hash.toData)]

/-- Both fields must be given. -/
def ofData? (v : Data.Value) : Option BlockRef :=
  if v.isRecord fields then do
    let height ← v.required? fields "height" (·.nat64?)
    let hash ← v.required? fields "hash" Hash.ofData?
    return ⟨height, hash⟩
  else none

end BlockRef

end QuorumNode
