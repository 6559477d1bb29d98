/-
The command line.  An option that takes a value has it attached or takes the
argument that follows; what follows is judged when the next option is met or the
arguments end, so a bad value before a request for help wins over the request.
-/
import QuorumNode.Text.Numeral

namespace QuorumNode.Cli

/-- What the operator gave; an option that was not given is none. -/
structure Arguments where
  network : Option String := none
  logLevel : Option String := none
  logFile : Option String := none
  peers : Option (List String) := none
  population : Option Nat := none
  lowParams : Bool := false
  chainLocks : Option String := none
deriving DecidableEq, Repr, Inhabited

/-- The options that take a value. -/
inductive Setting where
  | network
  | logLevel
  | logFile
  | peers
  | population
  | chainLocks
deriving DecidableEq, Repr

inductive Flag where
  | setting (setting : Setting)
  | lowParams
  | help
  | version
deriving DecidableEq, Repr

/-- Options are known by their full names only. -/
def Flag.ofName? : String → Option Flag
  | "network" => some (setting .network)
  | "log-level" => some (setting .logLevel)
  | "log-file" => some (setting .logFile)
  | "peers" => some (setting .peers)
  | "masternode-count" => some (setting .population)
  | "low-llmq-params" => some lowParams
  | "chain-locks-quorum" => some (setting .chainLocks)
  | "help" => some help
  | "version" => some version
  | _ => none

def Flag.ofLetter? : Char → Option Flag
  | 'l' => some (setting .logLevel)
  | 'p' => some (setting .peers)
  | 'h' => some help
  | 'V' => some version
  | _ => none

/-- Why reading ends before the arguments do. -/
inductive Stop where
  | help
  | version
  | misuse
deriving DecidableEq, Repr

/-- Sets what was not set before. -/
def setOnce (before : Option α) (value : α) : Except Stop (Option α) :=
  if before.isSome then .error .misuse else .ok (some value)

/-- Only peers may be given more than once, and several at a time. -/
def Arguments.give (args : Arguments) (setting : Setting) (value : String) :
    Except Stop Arguments := do
  match setting with
  | .network => return { args with network := ← setOnce args.network value }
  | .logLevel => return { args with logLevel := ← setOnce args.logLevel value }
  | .logFile => return { args with logFile := ← setOnce args.logFile value }
  | .chainLocks => return { args with chainLocks := ← setOnce args.chainLocks value }
  | .peers => return { args with peers := some (args.peers.getD [] ++ value.splitOn ",") }
  | .population =>
      match Text.numeralBelow? 0x10000000000000000 value.toList with
      | some n => return { args with population := ← setOnce args.population n }
      | none => throw .misuse

/-- `pending` is an option without an attached value, and the argument that
followed it.  After a bare pair of dashes no option is read any more. -/
structure Reading where
  args : Arguments
  pending : Option (Setting × Option String)
  ended : Bool

namespace Reading

/-- Judges the pending option. -/
def settle (r : Reading) : Except Stop Arguments :=
  match r.pending with
  | none => .ok r.args
  | some (_, none) => .error .misuse
  | some (setting, some value) => r.args.give setting value

/-- An option, with its value if one is attached. -/
def react (r : Reading) (flag : Flag) (attached : Option String) : Except Stop Reading := do
  let args ← r.settle
  match flag, attached with
  | .setting setting, none => return ⟨args, some (setting, none), false⟩
  | .setting setting, some value => return ⟨← args.give setting value, none, false⟩
  | .lowParams, none =>
      if args.lowParams then throw .misuse
      else return ⟨{ args with lowParams := true }, none, false⟩
  | .help, none => throw .help
  | .version, none => throw .version
  | _, some _ => throw .misuse

/-- An argument that begins with two dashes. -/
def long (r : Reading) (chars : List Char) : Except Stop Reading :=
  let (name, rest) := chars.span (· != '=')
  match Flag.ofName? (String.ofList name) with
  | none => .error .misuse
  | some flag =>
      r.react flag (if rest.isEmpty then none else some (String.ofList (rest.drop 1)))

/-- An argument that begins with one dash: letters of options, the last of which
may have its value attached. -/
def short (r : Reading) : List Char → Except Stop Reading
  | [] => .ok r
  | letter :: rest =>
      match Flag.ofLetter? letter with
      | none => .error .misuse
      | some (.setting setting) =>
          match rest with
          | [] => r.react (.setting setting) none
          | '=' :: value => r.react (.setting setting) (some (String.ofList value))
          | value => r.react (.setting setting) (some (String.ofList value))
      | some flag => do short (← r.react flag none) rest

/-- An argument that is no option. -/
def operand (r : Reading) (value : String) : Except Stop Reading :=
  match r.pending with
  | some (setting, none) => .ok { r with pending := some (setting, some value) }
  | _ => .error .misuse

def step (r : Reading) (arg : String) : Except Stop Reading :=
  if r.ended then .error .misuse
  else
    match arg.toList with
    | ['-', '-'] => .ok { r with ended := true }
    | '-' :: '-' :: chars => r.long chars
    | '-' :: letter :: rest => r.short (letter :: rest)
    | _ => r.operand arg

end Reading

/-- Reads all arguments. -/
def Arguments.parse (args : List String) : Except Stop Arguments := do
  (← args.foldlM Reading.step ⟨{}, none, false⟩).settle

end QuorumNode.Cli
