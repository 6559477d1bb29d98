/-
Whether a pattern can be put to work.  A pattern is about characters unless the
switch for them is off; then it is about bytes, and must not match what is no
UTF-8.  There are no tables of character properties and cases, and no word
boundaries that depend on characters.
-/
import QuorumNode.Pattern.ByteClass
import QuorumNode.Pattern.Reader

namespace QuorumNode.Pattern

/-- The switches that matter here. -/
structure Mode where
  ignoreCase : Bool := false
  unicode : Bool := true
deriving DecidableEq, Repr

def Mode.apply (items : List SwitchItem) (mode : Mode) : Mode where
  ignoreCase := (SwitchItem.setting? .ignoreCase items).getD mode.ignoreCase
  unicode := (SwitchItem.setting? .unicode items).getD mode.unicode

/-- The name of a property as it is looked up: lower case letters of ASCII, without
separators and without a leading "is". -/
def plainName (name : List Char) : List Char :=
  let name := name.map Char.toLower
  let name := match name with
    | 'i' :: 's' :: rest => rest
    | name => name
  name.filter fun c => c.toNat < 0x80 && c != ' ' && c != '_' && c != '-'

/-- Without tables no property is known.  Three short names stand for values of
the general category in the first place. -/
def Property.fault : Property → Fault
  | named name =>
      if ["cf", "sc", "lc"].contains (String.ofList (plainName name)) then .propertyValueUnknown
      else .propertyUnknown
  | valued _ _ => .propertyUnknown

def flaw (span : Span) (fault : Fault) : Except Flaw α := .error ⟨span, fault⟩

/-- The byte of a literal in a class of bytes. -/
def Literal.byte (l : Literal) : Except Flaw Char :=
  if l.char.toNat < 0x80 then .ok l.char
  else flaw l.span (if l.isByte then .brokenEncoding else .unicodeNotAllowed)

/-- A class of bytes must stay within ASCII once it is negated. -/
def closeBytes (ignoreCase : Bool) (span : Span) (negated : Bool) (s : ByteSet) :
    Except Flaw ByteSet :=
  let s := if ignoreCase then s.foldCase else s
  let s := if negated then ~~~s else s
  if s.isAscii then .ok s else flaw span .brokenEncoding

mutual

/-- Whether a class of characters has members that were written down.  The cases
of such members cannot be ignored. -/
def ClassSet.members (ignoreCase : Bool) : ClassSet → Except Flaw Bool
  | .empty _ => .ok false
  | .literal _ | .range .. => .ok true
  | .named span _ _ => if ignoreCase then flaw span .caseUnavailable else .ok true
  | .property span _ meant => flaw span meant.fault
  | .shorthand span _ _ => flaw span .shorthandUnavailable
  | .bracketed span _ set => do
      let found ← set.members ignoreCase
      if ignoreCase && found then flaw span .caseUnavailable else return found
  | .union _ items => ClassSet.anyMembers ignoreCase items
  | .combined _ _ left right => do
      let inLeft ← left.members ignoreCase
      let inRight ← right.members ignoreCase
      if ignoreCase && inRight then flaw right.span .caseUnavailable
      else if ignoreCase && inLeft then flaw left.span .caseUnavailable
      else return inLeft || inRight

def ClassSet.anyMembers (ignoreCase : Bool) : List ClassSet → Except Flaw Bool
  | [] => .ok false
  | set :: rest => do
      let found ← set.members ignoreCase
      let more ← ClassSet.anyMembers ignoreCase rest
      return found || more

end

mutual

/-- The bytes of a class of bytes. -/
def ClassSet.bytes (ignoreCase : Bool) : ClassSet → Except Flaw ByteSet
  | .empty _ => .ok 0
  | .literal l => l.byte.map ByteSet.single
  | .range _ low high => do return ByteSet.chars (← low.byte) (← high.byte)
  | .named span negated kind => closeBytes ignoreCase span negated kind.bytes
  | .property span _ _ => flaw span .unicodeNotAllowed
  | .shorthand span negated kind => closeBytes false span negated kind.bytes
  | .bracketed span negated set => do
      closeBytes ignoreCase span negated (← set.bytes ignoreCase)
  | .union _ items => ClassSet.allBytes ignoreCase items
  | .combined _ op left right => do
      let fold := fun (s : ByteSet) => if ignoreCase then s.foldCase else s
      return ByteSet.combine op (fold (← left.bytes ignoreCase))
        (fold (← right.bytes ignoreCase))

def ClassSet.allBytes (ignoreCase : Bool) : List ClassSet → Except Flaw ByteSet
  | [] => .ok 0
  | set :: rest => do
      return (← set.bytes ignoreCase) ||| (← ClassSet.allBytes ignoreCase rest)

end

/-- A literal outside classes.  Bytes beyond ASCII are not UTF-8 by themselves. -/
def Literal.check (mode : Mode) (l : Literal) : Except Flaw Unit :=
  if mode.unicode then
    if mode.ignoreCase then flaw l.span .caseUnavailable else .ok ()
  else if l.isByte && 0x80 ≤ l.char.toNat then flaw l.span .brokenEncoding
  else .ok ()

mutual

/-- Goes through a term; the result is the mode behind it, and whether it asks for
word boundaries between characters. -/
def Term.check (mode : Mode) : Term → Except Flaw (Mode × Bool)
  | .empty _ => .ok (mode, false)
  | .switches _ items => .ok (mode.apply items, false)
  | .literal l => (l.check mode).map fun _ => (mode, false)
  | .dot span => if mode.unicode then .ok (mode, false) else flaw span .brokenEncoding
  | .assertion _ meant => .ok (mode, mode.unicode && meant.isAboutWords)
  | .property span _ meant =>
      flaw span (if mode.unicode then meant.fault else .unicodeNotAllowed)
  | .shorthand span negated kind =>
      if mode.unicode then flaw span .shorthandUnavailable
      else (closeBytes false span negated kind.bytes).map fun _ => (mode, false)
  | .bracketed span negated set =>
      let bracketed := ClassSet.bracketed span negated set
      if mode.unicode then (bracketed.members mode.ignoreCase).map fun _ => (mode, false)
      else (bracketed.bytes mode.ignoreCase).map fun _ => (mode, false)
  | .repetition _ never body => do
      let (mode, found) ← body.check mode
      return (mode, found && !never)
  | .group _ items body => do
      let (_, found) ← body.check (mode.apply items)
      return (mode, found)
  | .choice _ items | .sequence _ items => Term.checkAll mode items

def Term.checkAll (mode : Mode) : List Term → Except Flaw (Mode × Bool)
  | [] => .ok (mode, false)
  | t :: rest => do
      let (mode, found) ← t.check mode
      let (mode, more) ← Term.checkAll mode rest
      return (mode, found || more)

end

/-- Why a pattern cannot be put to work. -/
inductive Failure where
  | flawed (flaw : Flaw)
  | wordBoundary
deriving DecidableEq, Repr

/-- The messages of a failure, each the cause of the one before. -/
def Failure.messages (text : List Char) : Failure → List String
  | flawed flaw => ["error building NFA", "error parsing regex", flaw.report text]
  | wordBoundary =>
      ["unsupported regex feature for DFAs: cannot build DFAs for regexes with Unicode word " ++
        "boundaries; switch to ASCII word boundaries, or heuristically enable Unicode word " ++
        "boundaries or use a different regex engine"]

/-- Reads a pattern and goes through it. -/
def check (text : List Char) : Except Failure Unit :=
  match (parse text).bind (Term.check {}) with
  | .error flaw => .error (.flawed flaw)
  | .ok (_, true) => .error .wordBoundary
  | .ok (_, false) => .ok ()

end QuorumNode.Pattern
