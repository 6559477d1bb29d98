/-
The timing and retry knobs of a sync, times in seconds.
-/
import QuorumNode.Sync.Message

namespace QuorumNode.Sync

structure Settings where
  /-- Least time between two ticks that do something. -/
  tick : Int := 6
  /-- Silence after which a stage is asked for again. -/
  timeout : Int := 30
  /-- Stillness of the tip after which it no longer counts as the best. -/
  tipReset : Int := 600
  /-- Retries before a stage fails. -/
  maxAttempts : Nat := 8
  /-- A longer gap between ticks is taken for a suspension. -/
  suspendRestart : Int := 3600
  /-- With more peers than this the blockchain stage ends sooner. -/
  fastAdvancePeers : Nat := 3
deriving DecidableEq, Repr, Inhabited

/-- How long a caught-up blockchain must have been quiet. -/
def Settings.quietPeriod (cfg : Settings) (peers : List Peer) : Int :=
  if cfg.fastAdvancePeers < peers.length then cfg.tick else cfg.timeout

namespace Settings

theorem quietPeriod_of_few {cfg : Settings} {peers : List Peer}
    (hfew : peers.length ≤ cfg.fastAdvancePeers) : cfg.quietPeriod peers = cfg.timeout :=
  if_neg (Nat.not_lt.mpr hfew)

theorem quietPeriod_of_many {cfg : Settings} {peers : List Peer}
    (hmany : cfg.fastAdvancePeers < peers.length) : cfg.quietPeriod peers = cfg.tick :=
  if_pos hmany

def fields : List String :=
  ["tick_secs", "asset_timeout_secs", "tip_reset_secs", "max_asset_attempts",
    "suspend_restart_secs", "fast_advance_peer_threshold"]

/-- Each setting as data. -/
def entries (cfg : Settings) : List (String × Data.Value) :=
  [("tick_secs", .int cfg.tick),
    ("asset_timeout_secs", .int cfg.timeout),
    ("tip_reset_secs", .int cfg.tipReset),
    ("max_asset_attempts", .ofNat cfg.maxAttempts),
    ("suspend_restart_secs", .int cfg.suspendRestart),
    ("fast_advance_peer_threshold", .ofNat cfg.fastAdvancePeers)]

def toData (cfg : Settings) : Data.Value := .ofFields cfg.entries

/-- A field that is not given has its default. -/
def ofData? (v : Data.Value) : Option Settings :=
  let usual : Settings := {}
  if v.isRecord fields then do
    let tick ← v.fieldOr fields "tick_secs" (·.int64?) usual.tick
    let timeout ← v.fieldOr fields "asset_timeout_secs" (·.int64?) usual.timeout
    let tipReset ← v.fieldOr fields "tip_reset_secs" (·.int64?) usual.tipReset
    let maxAttempts ← v.fieldOr fields "max_asset_attempts" (·.nat32?) usual.maxAttempts
    let suspendRestart ←
      v.fieldOr fields "suspend_restart_secs" (·.int64?) usual.suspendRestart
    let fastAdvancePeers ←
      v.fieldOr fields "fast_advance_peer_threshold" (·.nat64?) usual.fastAdvancePeers
    return ⟨tick, timeout, tipReset, maxAttempts, suspendRestart, fastAdvancePeers⟩
  else none

end Settings

end QuorumNode.Sync
