/-
A configuration of which only some fields are given, in the sync section as outside of it: it
is read as the fields that are given, and the defaults besides.
-/
import QuorumNode.Node.Config
import QuorumNode.Proofs.Data.Record
import QuorumNode.Proofs.Json.Language

namespace QuorumNode

open QuorumNode.Data

namespace Sync.Settings

/-- Each setting is in the range of its machine word. -/
structure Fits (cfg : Settings) : Prop where
  tick : Value.IsInt64 cfg.tick
  timeout : Value.IsInt64 cfg.timeout
  tipReset : Value.IsInt64 cfg.tipReset
  suspendRestart : Value.IsInt64 cfg.suspendRestart
  maxAttempts : cfg.maxAttempts < 0x100000000
  fastAdvancePeers : cfg.fastAdvancePeers < 0x10000000000000000

/-- The settings named in `kept`, and the usual ones besides. -/
def keeping (cfg : Settings) (kept : List String) : Settings :=
  let usual : Settings := {}
  { tick := if "tick_secs" ∈ kept then cfg.tick else usual.tick
    timeout := if "asset_timeout_secs" ∈ kept then cfg.timeout else usual.timeout
    tipReset := if "tip_reset_secs" ∈ kept then cfg.tipReset else usual.tipReset
    maxAttempts := if "max_asset_attempts" ∈ kept then cfg.maxAttempts else usual.maxAttempts
    suspendRestart :=
      if "suspend_restart_secs" ∈ kept then cfg.suspendRestart else usual.suspendRestart
    fastAdvancePeers :=
      if "fast_advance_peer_threshold" ∈ kept then cfg.fastAdvancePeers
      else usual.fastAdvancePeers }

theorem nodup_entries (cfg : Settings) : (cfg.entries.map (·.1)).Nodup := by
  simp [entries]

theorem ofData?_eq {cfg : Settings} {kept : List String}
    {extra members : List (Option String × Value)} (hfits : cfg.Fits)
    (hgives : Gives cfg.entries kept extra members) :
    ofData? (.object members) = some (cfg.keeping kept) := by
  have hrecord : (Value.object members).isRecord fields = true :=
    hgives.isRecord cfg.nodup_entries
  rw [ofData?, if_pos hrecord,
    hgives.fieldOr_eq cfg.nodup_entries "tick_secs" (by simp [entries])
      (Value.int64?_int hfits.tick),
    hgives.fieldOr_eq cfg.nodup_entries "asset_timeout_secs" (by simp [entries])
      (Value.int64?_int hfits.timeout),
    hgives.fieldOr_eq cfg.nodup_entries "tip_reset_secs" (by simp [entries])
      (Value.int64?_int hfits.tipReset),
    hgives.fieldOr_eq cfg.nodup_entries "max_asset_attempts" (by simp [entries])
      (Value.nat32?_ofNat hfits.maxAttempts),
    hgives.fieldOr_eq cfg.nodup_entries "suspend_restart_secs" (by simp [entries])
      (Value.int64?_int hfits.suspendRestart),
    hgives.fieldOr_eq cfg.nodup_entries "fast_advance_peer_threshold" (by simp [entries])
      (Value.nat64?_ofNat hfits.fastAdvancePeers)]
  rfl

theorem wellFormed_entries (cfg : Settings) :
    ∀ entry ∈ cfg.entries, Json.WellFormed entry.2 := by
  simp [entries, Value.ofNat, Json.WellFormed.int]

end Sync.Settings

namespace Node.Config

/-- Each number is in the range of its machine word. -/
structure Fits (cfg : Config) : Prop where
  population : cfg.population < 0x10000000000000000
  sync : cfg.sync.Fits

/-- The fields named in `kept`, those of the sync section named in `keptSync`, and the defaults
besides. -/
def keeping (cfg : Config) (kept keptSync : List String) : Config :=
  let usual : Config := {}
  { network := if "network" ∈ kept then cfg.network else usual.network
    logLevel := if "log_level" ∈ kept then cfg.logLevel else usual.logLevel
    logFile := if "log_file" ∈ kept then cfg.logFile else usual.logFile
    seedPeers := if "seed_peers" ∈ kept then cfg.seedPeers else usual.seedPeers
    population := if "masternode_count" ∈ kept then cfg.population else usual.population
    lowParams := if "low_llmq_params" ∈ kept then cfg.lowParams else usual.lowParams
    chainLocks := if "chain_locks_quorum" ∈ kept then cfg.chainLocks else usual.chainLocks
    sync := if "sync" ∈ kept then cfg.sync.keeping keptSync else usual.sync }

theorem nodup_entries (cfg : Config) (sync : Value) : ((cfg.entries sync).map (·.1)).Nodup := by
  simp [entries]

theorem ofData?_eq {cfg : Config} {kept keptSync : List String}
    {extra members : List (Option String × Value)} {sync : Value} (hfits : cfg.Fits)
    (hsync : Sync.Settings.ofData? sync = some (cfg.sync.keeping keptSync))
    (hgives : Gives (cfg.entries sync) kept extra members) :
    ofData? (.object members) = some (cfg.keeping kept keptSync) := by
  have hnames := cfg.nodup_entries sync
  have hrecord : (Value.object members).isRecord fields = true := hgives.isRecord hnames
  have hseeds : (Value.ofList Value.ofString cfg.seedPeers).listOf? (·.string?) =
      some cfg.seedPeers :=
    Value.listOf?_ofList Value.string?_ofString cfg.seedPeers
  rw [ofData?, if_pos hrecord,
    hgives.fieldOr_eq hnames "network" (by simp [entries])
      (Value.string?_ofString cfg.network),
    hgives.fieldOr_eq hnames "log_level" (by simp [entries])
      (Value.string?_ofString cfg.logLevel),
    hgives.fieldOr_eq hnames "log_file" (by simp [entries])
      (Value.optionalString?_ofOption cfg.logFile),
    hgives.fieldOr_eq hnames "seed_peers" (by simp [entries]) hseeds,
    hgives.fieldOr_eq hnames "masternode_count" (by simp [entries])
      (Value.nat64?_ofNat hfits.population),
    hgives.fieldOr_eq hnames "low_llmq_params" (by simp [entries])
      (Value.bool?_bool cfg.lowParams),
    hgives.fieldOr_eq hnames "chain_locks_quorum" (by simp [entries])
      (Value.optionalString?_ofOption cfg.chainLocks),
    hgives.fieldOr_eq hnames "sync" (by simp [entries]) hsync]
  rfl

theorem keeping_fields (cfg : Config) : cfg.keeping fields Sync.Settings.fields = cfg := rfl

theorem wellFormed_ofOption (s : Option String) :
    Json.WellFormed (Value.ofOption Value.ofString s) := by
  cases s with
  | none => exact .null
  | some s => exact .text (some s)

theorem wellFormed_entries {cfg : Config} {sync : Value} (hsync : Json.WellFormed sync) :
    ∀ entry ∈ cfg.entries sync, Json.WellFormed entry.2 := by
  have hseeds : Json.WellFormed (Value.ofList Value.ofString cfg.seedPeers) := by
    refine .list fun v hv => ?_
    obtain ⟨seed, -, rfl⟩ := List.mem_map.mp hv
    exact .text (some seed)
  simp [entries, Value.ofNat, Value.ofString, Json.WellFormed.int, Json.WellFormed.text,
    Json.WellFormed.bool, wellFormed_ofOption, hseeds, hsync]

end Node.Config

end QuorumNode
