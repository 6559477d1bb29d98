/-
The parameters of each network, compiled in.  Everything in which two networks
differ is data of this structure; the checks at start-up read nothing else.
-/
import QuorumNode.Chain.Error
import QuorumNode.Quorum.Preset
import QuorumNode.Quorum.Table

namespace QuorumNode.Chain

/-- Known block hashes by height, each height at most once. -/
abbrev Checkpoints := List (Nat × Hash)

namespace Checkpoints

def at? (checkpoints : Checkpoints) (height : Nat) : Option Hash :=
  (checkpoints.find? (·.1 = height)).map (·.2)

/-- Pins `height` to `hash`, whatever it was pinned to before. -/
def pin (checkpoints : Checkpoints) (height : Nat) (hash : Hash) : Checkpoints :=
  checkpoints.filter (·.1 ≠ height) ++ [(height, hash)]

/-- Pins every pair of the list; of two for one height the later counts. -/
def ofList (entries : List (Nat × Hash)) : Checkpoints :=
  entries.foldl (fun checkpoints entry => checkpoints.pin entry.1 entry.2) []

end Checkpoints

structure Params where
  network : Network
  defaultPort : Nat
  messageStart : List Nat
  genesisHash : Option Hash
  genesisMerkleRoot : Option Hash
  checkpoints : Checkpoints
  quorums : Quorum.Table
  chainLocks : Quorum.Kind
  instantSend : Quorum.Kind
  governanceMinQuorum : Nat
  targetSpacing : Nat
  requestExpiry : Nat
deriving DecidableEq, Repr

namespace Params

/-- Seconds between two blocks, the same on every network. -/
def targetSpacingSeconds : Nat := 60

def mainGenesis : Hash :=
  ⟨0x001787e5f9c3cd249f84f0142071f6098d9e3b7ec8591ff73543ddc4900c1dc2⟩

def testGenesis : Hash :=
  ⟨0x001efd3021f4414e897125d9e85ec42c3e0dc360d2b6ce7853e7a2900448c63a⟩

/-- Both networks with a fixed genesis block have the same coinbase in it. -/
def genesisMerkle : Hash :=
  ⟨0xc083fb7c3b6936c15dc2685a522ffa685247e8c665c818888b51b0771584d7b4⟩

def regtestFirst : Hash :=
  ⟨0x000008ca1832a4baf228eb1553c03d3a2c8e02399550dd6ea8d65cec3ef23d2e⟩

def mainCheckpoints : Checkpoints :=
  [(0, mainGenesis),
    (10, ⟨0x00f76639e2109c2210dfb59aa56b146e4be0281187b939e5be738297e4d51ad7⟩),
    (50, ⟨0x009628b710b3695af2c34e9c0ed92e41b10cd813b45e3e8d5ef58b54506a1bb7⟩),
    (100, ⟨0x000050f547035f5a5353cd0d8a182293460ffc4af02eaf2404cdc39d24d4c34b⟩),
    (150, ⟨0x0000000395f58efdcfc08a55742588e0f046f58bd89c0dd5aec6d2b3e111e747⟩)]

def ofNetwork : Network → Params
  | .main =>
      { network := .main
        defaultPort := 24240
        messageStart := [0x52, 0x34, 0x66, 0x2e]
        genesisHash := some mainGenesis
        genesisMerkleRoot := some genesisMerkle
        checkpoints := mainCheckpoints
        quorums := Quorum.Table.ofList
          [Quorum.Preset.llmq3_60, Quorum.Preset.llmq20_60, Quorum.Preset.llmq20_85]
        chainLocks := .llmq400_60
        instantSend := .llmq50_60
        governanceMinQuorum := 10
        targetSpacing := targetSpacingSeconds
        requestExpiry := 3600 }
  | .test =>
      { network := .test
        defaultPort := 34340
        messageStart := [0x38, 0xe2, 0x68, 0xff]
        genesisHash := some testGenesis
        genesisMerkleRoot := some genesisMerkle
        checkpoints := [(0, testGenesis)]
        quorums := Quorum.Table.ofList
          [Quorum.Preset.llmq50_60, Quorum.Preset.llmq400_60, Quorum.Preset.llmq400_85]
        chainLocks := .llmq50_60
        instantSend := .llmq50_60
        governanceMinQuorum := 1
        targetSpacing := targetSpacingSeconds
        requestExpiry := 300 }
  | .dev =>
      { network := .dev
        defaultPort := 45450
        messageStart := [0x56, 0x72, 0xff, 0xce]
        genesisHash := none
        genesisMerkleRoot := none
        checkpoints := []
        quorums := Quorum.Table.ofList
          [Quorum.Preset.llmq50_60, Quorum.Preset.llmq400_60, Quorum.Preset.llmq400_85]
        chainLocks := .llmq50_60
        instantSend := .llmq50_60
        governanceMinQuorum := 1
        targetSpacing := targetSpacingSeconds
        requestExpiry := 300 }
  | .regtest =>
      { network := .regtest
        defaultPort := 56560
        messageStart := [0xfc, 0x44, 0xb7, 0x66]
        genesisHash := none
        genesisMerkleRoot := none
        checkpoints := [(0, regtestFirst)]
        quorums := Quorum.Table.ofList
          [Quorum.Preset.llmq5_60Regtest, Quorum.Preset.llmq50_60]
        chainLocks := .llmq5_60
        instantSend := .llmq5_60
        governanceMinQuorum := 1
        targetSpacing := targetSpacingSeconds
        requestExpiry := 300 }

/-- A parameter set must keep its rules and be filed under its own kind. -/
def checkItem (item : Quorum.Kind × Quorum.Params) : Except Error Unit :=
  match item.2.check with
  | .error cause => .error (.invalidQuorum cause)
  | .ok () => if item.2.kind = item.1 then .ok () else .error (.unknownQuorum item.1)

/-- Every parameter set of the table, in table order; the first error counts. -/
def checkQuorums (table : Quorum.Table) : Except Error Unit :=
  forM table.items checkItem

def requireKind (table : Quorum.Table) (kind : Quorum.Kind) : Except Error Unit :=
  if table.contains kind then .ok () else .error (.unknownQuorum kind)

/-- A fixed genesis block and a checkpoint at height 0 must agree. -/
def checkGenesis (params : Params) : Except Error Unit :=
  match params.genesisHash, params.checkpoints.at? 0 with
  | some genesis, some checkpoint =>
      if genesis = checkpoint then .ok ()
      else .error (.checkpointMismatch params.network 0 genesis checkpoint)
  | _, _ => .ok ()

/-- The invariants a node relies on, looked at once at start-up. -/
def check (params : Params) : Except Error Unit := do
  checkQuorums params.quorums
  requireKind params.quorums params.chainLocks
  requireKind params.quorums params.instantSend
  params.checkGenesis

/-- If a hash is expected, it must be the one that was found. -/
def expect (expected? : Option Hash) (found : Hash) (mismatch : Hash → Hash → Error) :
    Except Error Unit :=
  match expected? with
  | some expected => if expected = found then .ok () else .error (mismatch expected found)
  | none => .ok ()

/-- Compares a genesis block with the fixed one, the merkle root first.  A
network without a fixed genesis accepts every block. -/
def verifyGenesis (params : Params) (hash merkleRoot : Hash) : Except Error Unit := do
  expect params.genesisMerkleRoot merkleRoot (.merkleMismatch params.network)
  expect params.genesisHash hash (.genesisMismatch params.network)

/-- Signs chain locks with another kind of the table, on devnet only. -/
def withChainLocks (params : Params) (kind : Quorum.Kind) : Except Error Params :=
  if params.network ≠ .dev then .error (.overrideNotAllowed params.network)
  else if params.quorums.contains kind then .ok { params with chainLocks := kind }
  else .error (.unknownQuorum kind)

end Params

end QuorumNode.Chain
