/-
The configuration file of a node.  A file that cannot be read as a configuration
counts for nothing: the defaults hold and the file stays as it is.
-/
import QuorumNode.Node.Config
import QuorumNode.Toml.Quoted
import QuorumNode.Toml.Reader

namespace QuorumNode.Node

namespace ConfigFile

/-- The name of the application, which its directory is called after. -/
def appName : String := "smartnode"

/-- The name of the file, without its extension. -/
def fileName : String := "node-config"

/-- An integer that the format can hold. -/
def integer? (n : Int) : Option String :=
  (Data.Value.int n).int64?.map toString

def entry (name written : String) : String := name ++ " = " ++ written ++ "\n"

def flag (b : Bool) : String := if b then "true" else "false"

/-- At most one item stands on the line, more stand one to a line. -/
def strings : List String → String
  | [] => "[]"
  | [s] => "[" ++ Toml.quoted s ++ "]"
  | ss => "[\n" ++ String.join (ss.map fun s => "    " ++ Toml.quoted s ++ ",\n") ++ "]"

/-- An absent value has no line. -/
def optional (name : String) : Option String → String
  | some s => entry name (Toml.quoted s)
  | none => ""

/-- The text of the file, unless a number is too large for it. -/
def render? (cfg : Config) : Option String := do
  let population ← integer? cfg.population
  let tick ← integer? cfg.sync.tick
  let timeout ← integer? cfg.sync.timeout
  let tipReset ← integer? cfg.sync.tipReset
  let maxAttempts ← integer? cfg.sync.maxAttempts
  let suspendRestart ← integer? cfg.sync.suspendRestart
  let fastAdvancePeers ← integer? cfg.sync.fastAdvancePeers
  return String.join
    [entry "network" (Toml.quoted cfg.network),
      entry "log_level" (Toml.quoted cfg.logLevel),
      optional "log_file" cfg.logFile,
      entry "seed_peers" (strings cfg.seedPeers),
      entry "masternode_count" population,
      entry "low_llmq_params" (flag cfg.lowParams),
      optional "chain_locks_quorum" cfg.chainLocks,
      "\n[sync]\n",
      entry "tick_secs" tick,
      entry "asset_timeout_secs" timeout,
      entry "tip_reset_secs" tipReset,
      entry "max_asset_attempts" maxAttempts,
      entry "suspend_restart_secs" suspendRestart,
      entry "fast_advance_peer_threshold" fastAdvancePeers]

/-- A section given as a list may go on after its last field. -/
def cutSection (v : Data.Value) : Data.Value :=
  match v with
  | .object members =>
      .object (members.map fun
        | (some "sync", .list items) =>
            (some "sync", .list (items.take Sync.Settings.fields.length))
        | member => member)
  | _ => v

def read? (text : String) : Option Config :=
  (Toml.parse? text).bind fun v => Config.ofData? (cutSection v)

/-- The configuration that a file holds, and the text of the file after it was
loaded.  A missing file is made, with the defaults. -/
def load (file : Option String) : Config × Option String :=
  match file with
  | some text => ((read? text).getD {}, some text)
  | none => ({}, render? {})

end ConfigFile

end QuorumNode.Node
