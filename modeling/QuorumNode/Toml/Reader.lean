/-
Reading a TOML text as one object.  A key is given once and a table has one
header, yet the header of a table may come after those of tables inside it, and
dotted keys may go on with tables that dotted keys made.
-/
import QuorumNode.Toml.Token
import QuorumNode.Toml.Word

namespace QuorumNode.Toml

open QuorumNode.Data

/-- The names that lead from the outermost table to a value. -/
abbrev Path := List String

/-- What is refused for its depth: keys of this many names, and this many lists
and inline tables inside each other. -/
def depthBound : Nat := 80

/-- A name in a key, or one of the dots between names. -/
inductive KeyPart where
  | name (name : String)
  | dot
deriving DecidableEq, Repr

/-- The parts of a bare word in a key. -/
def keyParts (chars : List Char) : List KeyPart :=
  chars.foldr
    (fun c parts =>
      match c, parts with
      | '.', _ => .dot :: parts
      | c, .name rest :: parts => .name (String.ofList (c :: rest.toList)) :: parts
      | c, _ => .name c.toString :: parts)
    []

/-- The parts of a token in a key. -/
def keyPartsOfToken? : Token → Option (List KeyPart)
  | .word chars =>
      if chars.all fun c => isKeyChar c || c == '.' then some (keyParts chars) else none
  | .text content => some [.name content]
  | _ => none

/-- The names in a key, which have one dot between them. -/
def namesOfParts? : List KeyPart → Option Path
  | [.name name] => some [name]
  | .name name :: .dot :: rest => (namesOfParts? rest).map (name :: ·)
  | _ => none

def pathOfParts? (parts : List KeyPart) : Option Path :=
  (namesOfParts? parts).filter (·.length < depthBound)

/-- How a table came to be: by a header or braces of its own, by the header of a
table inside it, or by a dotted key. -/
inductive Origin where
  | own
  | inner
  | dotted
deriving DecidableEq, Repr

/-- What a name stands for.  A list of tables made by headers has a last table,
which may still grow, and those before it in reverse. -/
inductive Node where
  | value (v : Value)
  | table (origin : Origin) (members : List (String × Node))
  | tables (before : List (List (String × Node))) (last : List (String × Node))

abbrev Members := List (String × Node)

mutual

def Node.toData : Node → Value
  | .value v => v
  | .table _ members => .object (membersData members)
  | .tables before last => .list ((tablesData before).reverse ++ [.object (membersData last)])

def membersData : List (String × Node) → List (Option String × Value)
  | [] => []
  | (name, node) :: rest => (some name, node.toData) :: membersData rest

def tablesData : List (List (String × Node)) → List Value
  | [] => []
  | members :: rest => .object (membersData members) :: tablesData rest

end

/-- The members with one of them changed; `f` sees its node before. -/
def alter? (name : String) (f : Option Node → Option Node) : Members → Option Members
  | [] => (f none).map fun node => [(name, node)]
  | (other, node) :: rest =>
      if other = name then (f (some node)).map fun node => (other, node) :: rest
      else (alter? name f rest).map ((other, node) :: ·)

/-- Changes the table at the end of a path, from a table with `origin` and
`members`.  Tables on the way are made as needed; a list of tables is entered at
its last one.  Dotted keys do not enter a table that has a header. -/
def within? (dotted : Bool) (f : Origin → Members → Option (Origin × Members)) :
    Path → Origin → Members → Option (Origin × Members)
  | [], origin, members => f origin members
  | name :: rest, origin, members =>
      (alter? name
        (fun
          | none =>
              (within? dotted f rest (if dotted then .dotted else .inner) []).map
                fun (origin, members) => .table origin members
          | some (.value _) => none
          | some (.table origin members) =>
              if dotted && origin == .own then none
              else (within? dotted f rest origin members).map
                fun (origin, members) => .table origin members
          | some (.tables before last) =>
              (within? dotted f rest .own last).map
                fun (_, members) => .tables before members)
        members).map (origin, ·)

/-- Sets what was not set before. -/
def fresh? (node : Node) : Option Node → Option Node
  | none => some node
  | some _ => none

/-- Gives a key its value in a table.  A dotted key ends in a table of dotted
keys, a plain one does not. -/
def assign? (key : Path) (v : Value) (origin : Origin) (members : Members) :
    Option (Origin × Members) := do
  let name ← key.getLast?
  within? true
    (fun origin members =>
      if (origin == .dotted) == key.dropLast.isEmpty then none
      else (alter? name (fresh? (.value v)) members).map (origin, ·))
    key.dropLast origin members

/-- A table gets its header. -/
def openTable? : Option Node → Option Node
  | none => some (.table .own [])
  | some (.table .inner members) => some (.table .own members)
  | some _ => none

/-- A list of tables gets one more. -/
def openItem? : Option Node → Option Node
  | none => some (.tables [] [])
  | some (.tables before last) => some (.tables (last :: before) [])
  | some _ => none

/-- What has been read, and the path of the table that lines add to. -/
structure Document where
  members : Members
  table : Path

namespace Document

def empty : Document := ⟨[], []⟩

def change? (f : Origin → Members → Option (Origin × Members)) (path : Path)
    (doc : Document) : Option Document :=
  (within? false f path .own doc.members).map fun (_, members) => { doc with members }

/-- A key and value line in the current table. -/
def assign? (key : Path) (v : Value) (doc : Document) : Option Document :=
  doc.change? (Toml.assign? key v) doc.table

/-- A header, which does `f` to what its path leads to. -/
def enter? (f : Option Node → Option Node) (path : Path) (doc : Document) :
    Option Document := do
  let name ← path.getLast?
  let doc ← doc.change? (fun origin members => (alter? name f members).map (origin, ·))
    path.dropLast
  return { doc with table := path }

end Document

/-- A list or an inline table with a value under way in it; what is done stands
in reverse in a list and in order in a table. -/
inductive Frame where
  | list (done : List Value)
  | table (done : Members) (key : Path)

/-- What may come next.  A key under way is held in its parts, and a date as it
was written, since a time of day may follow it after a space. -/
inductive Phase where
  | lineStart
  | lineEnd
  | headerStart
  | header (parts : List KeyPart)
  | itemHeader (parts : List KeyPart)
  | itemHeaderEnd (parts : List KeyPart)
  | key (parts : List KeyPart)
  | value (key : Path) (frames : List Frame)
  | item (key : Path) (frames : List Frame) (done : List Value)
  | memberStart (key : Path) (frames : List Frame)
  | member (key : Path) (frames : List Frame) (done : Members) (parts : List KeyPart)
  | date (key : Path) (frames : List Frame) (written : List Char)
  | dateSpace (key : Path) (frames : List Frame) (written : List Char)
  | complete (key : Path) (frames : List Frame) (v : Value)

/-- The phase when nothing belongs to what came before any more. -/
def Phase.settled : Phase → Phase
  | headerStart => header []
  | date path frames written | dateSpace path frames written =>
      complete path frames (ofMoment written)
  | phase => phase

structure Reading where
  doc : Document
  phase : Phase

namespace Reading

/-- A value begins. -/
def begin? (key : Path) (frames : List Frame) : Token → Option Phase
  | .word chars =>
      if isDate chars then some (.date key frames chars)
      else (wordValue? chars).map (.complete key frames)
  | .text content | .block content => some (.complete key frames (.ofString content))
  | .openBracket =>
      if frames.length + 1 < depthBound then some (.item key frames []) else none
  | .openBrace =>
      if frames.length + 1 < depthBound then some (.memberStart key frames) else none
  | _ => none

/-- A value is complete; the innermost container goes on or closes. -/
def continue? (key : Path) (v : Value) : List Frame → Token → Option Phase
  | .list done :: rest, .comma => some (.item key rest (v :: done))
  | .list done :: rest, .newline => some (.complete key (.list done :: rest) v)
  | .list done :: rest, .closeBracket => some (.complete key rest (.list (v :: done).reverse))
  | .table done name :: rest, .comma =>
      (assign? name v .own done).map fun (_, done) => .member key rest done []
  | .table done name :: rest, .closeBrace =>
      (assign? name v .own done).map fun (_, done) =>
        .complete key rest (.object (membersData done))
  | _, _ => none

/-- A token that is no blank, in a settled phase. -/
def take? (reading : Reading) (token : Token) : Option Reading :=
  let go := fun (phase : Phase) => ({ reading with phase } : Reading)
  match reading.phase, token with
  | .lineStart, .newline => some reading
  | .lineStart, .openBracket => some (go .headerStart)
  | .lineStart, _ => (keyPartsOfToken? token).map fun parts => go (.key parts)
  | .lineEnd, .newline => some (go .lineStart)
  | .header parts, .closeBracket => do
      let doc ← reading.doc.enter? openTable? (← pathOfParts? parts)
      return ⟨doc, .lineEnd⟩
  | .header parts, _ => (keyPartsOfToken? token).map fun more => go (.header (parts ++ more))
  | .itemHeader parts, .closeBracket => some (go (.itemHeaderEnd parts))
  | .itemHeader parts, _ =>
      (keyPartsOfToken? token).map fun more => go (.itemHeader (parts ++ more))
  | .key parts, .equals => (pathOfParts? parts).map fun key => go (.value key [])
  | .key parts, _ => (keyPartsOfToken? token).map fun more => go (.key (parts ++ more))
  | .value key frames, _ => (begin? key frames token).map go
  | .item _ _ _, .newline => some reading
  | .item key frames done, .closeBracket => some (go (.complete key frames (.list done.reverse)))
  | .item key frames done, _ => (begin? key (.list done :: frames) token).map go
  | .memberStart key frames, .closeBrace => some (go (.complete key frames (.object [])))
  | .memberStart key frames, _ =>
      (keyPartsOfToken? token).map fun parts => go (.member key frames [] parts)
  | .member key frames done parts, .equals =>
      (pathOfParts? parts).map fun name => go (.value key (.table done name :: frames))
  | .member key frames done parts, _ =>
      (keyPartsOfToken? token).map fun more => go (.member key frames done (parts ++ more))
  | .complete key [] v, .newline =>
      (reading.doc.assign? key v).map fun doc => ⟨doc, .lineStart⟩
  | .complete key frames v, _ => (continue? key v frames token).map go
  | _, _ => none

/-- Blanks mean nothing, but that the brackets around the name of a list of
tables are pairs, and that one space may stand between a date and its time. -/
def step? (reading : Reading) (token : Token) : Option Reading :=
  match reading.phase, token with
  | .headerStart, .openBracket => some { reading with phase := .itemHeader [] }
  | .itemHeaderEnd parts, .closeBracket => do
      let doc ← reading.doc.enter? openItem? (← pathOfParts? parts)
      return ⟨doc, .lineEnd⟩
  | .itemHeaderEnd _, _ => none
  | .date key frames written, .blank ' ' =>
      some { reading with phase := .dateSpace key frames written }
  | .dateSpace key frames written, .word clock =>
      if isClock clock then
        some { reading with phase := .complete key frames (ofMoment (written ++ ' ' :: clock)) }
      else none
  | phase, .blank _ => some { reading with phase := phase.settled }
  | phase, _ => ({ reading with phase := phase.settled } : Reading).take? token

/-- The object of a text that ends here. -/
def finish? : Reading → Option Value
  | ⟨doc, .lineStart⟩ => some (.object (membersData doc.members))
  | _ => none

end Reading

/-- The characters of a text without the mark that files may begin with. -/
def withoutMark : List Char → List Char
  | '\ufeff' :: rest => rest
  | chars => chars

/-- Reads a whole text. -/
def parse? (text : String) : Option Value := do
  let tokens ← tokens? (withoutMark text.toList)
  (← tokens.foldlM Reading.step? ⟨Document.empty, .lineStart⟩).finish?

end QuorumNode.Toml
