/-
From the command line and the configuration file to a running node, or to the
text and the exit code the program ends with.
-/
import QuorumNode.Chain.Params
import QuorumNode.Cli.Arguments
import QuorumNode.Cli.LogFile
import QuorumNode.Cli.LogFilter
import QuorumNode.Cli.Usage
import QuorumNode.Node.ConfigFile

namespace QuorumNode.Cli

/-- What keeps a node from starting. -/
inductive StartError where
  | logFilter (cause : LogFilter.Error)
  | logFile (path : String) (cause : FileError)
  | chain (cause : Chain.Error)
deriving DecidableEq, Repr

namespace StartError

def message : StartError → String
  | logFilter cause => cause.message
  | logFile path _ => "Failed to create log file " ++ path
  | chain cause => cause.message

/-- The messages of the causes, each the cause of the one before. -/
def causes : StartError → List String
  | logFilter cause => cause.causes
  | logFile _ cause => [cause.message]
  | chain cause => (cause.cause?.map (·.message)).toList

/-- A message behind a lead, with `margin` before its other lines. -/
def indented (lead margin : String) (message : String) : String :=
  "\n" ++ lead ++ ("\n" ++ margin).intercalate (message.splitOn "\n")

/-- A single cause is indented; several are numbered from zero. -/
def causeReport : List String → String
  | [] => ""
  | [cause] => "\n\nCaused by:" ++ indented "    " "    " cause
  | causes =>
      "\n\nCaused by:" ++ String.join (causes.mapIdx fun n cause =>
        indented ("    " ++ toString n ++ ": ") "       " cause)

/-- A filter that is cut inside a character ends the program on the spot. -/
def isAbrupt : StartError → Bool
  | logFilter .brokenCharacter => true
  | _ => false

def exitCode (e : StartError) : Nat := if e.isAbrupt then 101 else 1

/-- The report on the error output. -/
def report (e : StartError) : String :=
  "Error: " ++ e.message ++ causeReport e.causes ++ "\n"

end StartError

/-- What becomes of a call of the program: it prints something and ends, it was
misused, it cannot start, or it runs with a configuration, its chain parameters
and the configuration file as loading left it. -/
inductive Start where
  | printed (text : String)
  | misused
  | failed (cause : StartError)
  | running (config : Node.Config) (params : Chain.Params) (file : Option String)
deriving Repr

/-- Arguments take the place of what is configured; the flag can only be
raised. -/
def Arguments.override (args : Arguments) (cfg : Node.Config) : Node.Config :=
  { cfg with
    network := args.network.getD cfg.network
    logLevel := args.logLevel.getD cfg.logLevel
    logFile := args.logFile <|> cfg.logFile
    seedPeers := args.peers.getD cfg.seedPeers
    population := args.population.getD cfg.population
    lowParams := args.lowParams || cfg.lowParams
    chainLocks := args.chainLocks <|> cfg.chainLocks }

/-- The parameters a node starts with, once they have passed their checks. -/
def checkedParams (cfg : Node.Config) : Except Chain.Error Chain.Params := do
  let params ← cfg.chainParams
  params.check
  return params

/-- The log level a node without the option has. -/
def defaultLevel : String := "info"

/-- Only what the command line says counts for the log. -/
def Arguments.openLog (args : Arguments) (createFile : String → Except FileError Unit) :
    Except StartError Unit := do
  (LogFilter.check (args.logLevel.getD defaultLevel)).mapError .logFilter
  match args.logFile with
  | some path => (createFile path).mapError (.logFile path)
  | none => return ()

/-- Filter, log file, configuration and parameters are settled in this order;
`createFile` tells what the operating system says to a new log file. -/
def start (createFile : String → Except FileError Unit) (args : List String)
    (file : Option String) : Start :=
  match Arguments.parse args with
  | .error .help => .printed helpText
  | .error .version => .printed versionText
  | .error .misuse => .misused
  | .ok args =>
      match args.openLog createFile with
      | .error e => .failed e
      | .ok () =>
          let (loaded, file) := Node.ConfigFile.load file
          let cfg := args.override loaded
          match checkedParams cfg with
          | .error e => .failed (.chain e)
          | .ok params => .running cfg params file

/-- The configuration file after a node was shut down. -/
def fileAfter (cfg : Node.Config) (file : Option String) : Option String :=
  Node.ConfigFile.render? cfg <|> file

end QuorumNode.Cli
