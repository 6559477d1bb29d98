/-
The program: reads the command line and the configuration file, runs a node until
the standard input ends, and stores the configuration.  Everything that is
decided is decided elsewhere.
-/
import QuorumNode.Cli.Startup
import QuorumNode.Node.Service

namespace QuorumNode.Program

/-- The directory of the configuration file, below the user's own. -/
def configDirectory : IO String := do
  let base ← match ← IO.getEnv "XDG_CONFIG_HOME" with
    | some directory => pure directory
    | none => do
        let home ← IO.getEnv "HOME"
        pure (home.getD "." ++ "/.config")
  return base ++ "/" ++ Node.ConfigFile.appName

/-- The text of a file, if there is one that can be read. -/
def readFile? (path : String) : IO (Option String) := do
  try
    return some (← IO.FS.readFile path)
  catch _ =>
    return none

/-- Makes the log file, emptying one that was there. -/
def createFile (path : String) : IO (Except Cli.FileError Unit) := do
  try
    IO.FS.writeFile path ""
    return .ok ()
  catch
    | .noFileOrDirectory .. => return .error .notFound
    | .noSuchThing .. => return .error .noDevice
    | .permissionDenied .. => return .error .denied
    | .inappropriateType _ code _ =>
        return .error (if code = 20 then .notDirectory else .isDirectory)
    | e => return .error (.other (toString e))

/-- Tries the log file of the command line, if it gets that far. -/
def tryLogFile (args : List String) : IO (Except Cli.FileError Unit) := do
  match Cli.Arguments.parse args with
  | .error _ => return .ok ()
  | .ok given =>
      match Cli.LogFilter.check (given.logLevel.getD Cli.defaultLevel), given.logFile with
      | .ok (), some path => createFile path
      | _, _ => return .ok ()

/-- Reads the standard input to its end. -/
partial def awaitEnd : IO Unit := do
  let line ← (← IO.getStdin).getLine
  if line.isEmpty then return
  awaitEnd

/-- The milliseconds between two looks at the tickers. -/
def pause : UInt32 := 50

/-- Lets both tickers run until `stop` has ended.  Requests that a transport would
send are handed over and dropped. -/
partial def serve (stop : Task (Except IO.Error Unit)) (estimate : Node.Estimate)
    (service : Node.Service) (drains : Node.Ticker) (began seen : Nat) : IO Node.Service := do
  if ← IO.hasFinished stop then
    return service.shutdown
  IO.sleep pause
  let now ← IO.monoMsNow
  let service := service.run (now - seen) (now / 1000 : Nat) estimate
  let (fired, next) := drains.poll (now - began)
  let service :=
    if fired = 0 then service else { service with transport := service.transport.drain.2 }
  serve stop estimate service (next.getD drains) began now

/-- Runs a node and tells the stage it ended in. -/
def run (cfg : Node.Config) (params : Chain.Params) : IO Unit := do
  let began ← IO.monoMsNow
  let now : Int := (began / 1000 : Nat)
  let estimate : Node.Estimate := ⟨cfg.population, cfg.lowParams⟩
  let period := 1000 * (max 1 cfg.sync.tick).toNat
  let node := Node.Context.start params cfg.sync now
  let transport := Sync.Transport.ofPeers cfg.seedPeers
  let service := Node.Service.start node transport .maintain period now estimate
  let stop ← IO.asTask awaitEnd
  let ended ← serve stop estimate service (Node.Ticker.start 1000 .catchUp) began began
  IO.println ended.node.sync.state.stage.statusLine

/-- Writes the configuration file, if there is a text for it. -/
def writeConfig (directory path : String) (text : Option String) : IO Unit := do
  if let some text := text then
    IO.FS.createDirAll directory
    IO.FS.writeFile path text

end QuorumNode.Program

open QuorumNode in
def main (args : List String) : IO UInt32 := do
  let directory ← Program.configDirectory
  let path := directory ++ "/" ++ Node.ConfigFile.fileName ++ ".toml"
  let before ← Program.readFile? path
  let opened ← Program.tryLogFile args
  match Cli.start (fun _ => opened) args before with
  | .printed text =>
      IO.print text
      return 0
  | .misused =>
      IO.eprint Cli.helpText
      return 2
  | .failed e =>
      if let .chain _ := e then
        Program.writeConfig directory path (Node.ConfigFile.load before).2
      if !e.isAbrupt then
        IO.eprint e.report
      return e.exitCode.toUInt32
  | .running cfg params file =>
      Program.writeConfig directory path file
      Program.run cfg params
      Program.writeConfig directory path (Cli.fileAfter cfg file)
      return 0
