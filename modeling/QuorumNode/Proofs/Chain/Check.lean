/-
The check at start-up as a predicate.  What is compiled in passes it, and so does
all that a configuration can make of it.
-/
import QuorumNode.Node.Config
import QuorumNode.Proofs.Quorum.Upkeep

namespace QuorumNode

namespace Chain

/-- Two checks in a row pass if both do. -/
theorem bind_eq_ok_iff {first last : Except Error Unit} :
    (first >>= fun _ => last) = .ok () ↔ first = .ok () ∧ last = .ok () := by
  cases first with
  | error cause =>
      constructor
      · intro hpass
        cases hpass
      · rintro ⟨hfirst, -⟩
        cases hfirst
  | ok passed => exact ⟨fun hlast => ⟨rfl, hlast⟩, And.right⟩

/-- A row of checks passes if each of them does. -/
theorem forM_eq_ok_iff {α : Type} {f : α → Except Error Unit} {items : List α} :
    forM items f = .ok () ↔ ∀ item ∈ items, f item = .ok () := by
  induction items with
  | nil => exact ⟨fun _ _ hitem => absurd hitem List.not_mem_nil, fun _ => rfl⟩
  | cons item rest ih => rw [List.forM_cons, bind_eq_ok_iff, List.forall_mem_cons, ih]

namespace Params

/-- What a node relies on: sound quorum parameters, among them those that sign, and
one genesis block. -/
structure Valid (params : Params) : Prop where
  quorums : params.quorums.Valid
  chainLocks : params.quorums.contains params.chainLocks = true
  instantSend : params.quorums.contains params.instantSend = true
  genesis : ∀ genesis checkpoint, params.genesisHash = some genesis →
    params.checkpoints.at? 0 = some checkpoint → genesis = checkpoint

/-- The parameters keep their rules and are filed under their own kind. -/
def Sound (item : Quorum.Kind × Quorum.Params) : Prop :=
  item.2.Valid ∧ item.2.kind = item.1

theorem checkItem_eq_ok_iff (item : Quorum.Kind × Quorum.Params) :
    checkItem item = .ok () ↔ Sound item := by
  rw [Sound, ← Quorum.Params.check_eq_ok_iff, checkItem]
  cases item.2.check with
  | error cause => simp
  | ok passed => simp

theorem sound_of_mem_items {table : Quorum.Table} (hvalid : table.Valid)
    {item : Quorum.Kind × Quorum.Params} (hitem : item ∈ table.items) : Sound item := by
  obtain ⟨hentry, hkind⟩ := Quorum.Table.mem_items_iff.mp hitem
  exact ⟨hvalid item.2 hentry, hkind⟩

theorem checkQuorums_eq_ok_iff (table : Quorum.Table) :
    checkQuorums table = .ok () ↔ table.Valid := by
  rw [checkQuorums, forM_eq_ok_iff]
  constructor
  · intro hitems p hp
    have hitem : (p.kind, p) ∈ table.items := Quorum.Table.mem_items_iff.mpr ⟨hp, rfl⟩
    exact ((checkItem_eq_ok_iff _).mp (hitems _ hitem)).1
  · intro hvalid item hitem
    exact (checkItem_eq_ok_iff item).mpr (sound_of_mem_items hvalid hitem)

theorem requireKind_eq_ok_iff (table : Quorum.Table) (kind : Quorum.Kind) :
    requireKind table kind = .ok () ↔ table.contains kind = true := by
  unfold requireKind
  split
  · next hcontains => exact ⟨fun _ => hcontains, fun _ => rfl⟩
  · next hmissing =>
      constructor
      · intro hpass
        cases hpass
      · intro hcontains
        exact absurd hcontains hmissing

theorem checkGenesis_eq_ok_iff (params : Params) :
    params.checkGenesis = .ok () ↔
      ∀ genesis checkpoint, params.genesisHash = some genesis →
        params.checkpoints.at? 0 = some checkpoint → genesis = checkpoint := by
  unfold checkGenesis
  cases params.genesisHash with
  | none => simp
  | some genesis =>
      cases params.checkpoints.at? 0 with
      | none => simp
      | some checkpoint => simp

/-- The check passes exactly for parameters that a node can rely on. -/
theorem check_eq_ok_iff (params : Params) : params.check = .ok () ↔ params.Valid := by
  rw [check, bind_eq_ok_iff, bind_eq_ok_iff, bind_eq_ok_iff, checkQuorums_eq_ok_iff,
    requireKind_eq_ok_iff, requireKind_eq_ok_iff, checkGenesis_eq_ok_iff]
  constructor
  · rintro ⟨hquorums, hchainLocks, hinstantSend, hgenesis⟩
    exact ⟨hquorums, hchainLocks, hinstantSend, hgenesis⟩
  · rintro ⟨hquorums, hchainLocks, hinstantSend, hgenesis⟩
    exact ⟨hquorums, hchainLocks, hinstantSend, hgenesis⟩

/-- What is compiled in can be relied on. -/
theorem valid_ofNetwork (network : Network) : (ofNetwork network).Valid := by
  rw [← check_eq_ok_iff]
  cases network <;> rfl

/-- The chain-lock kind can be changed on a devnet only, and only for one that the
network has. -/
theorem withChainLocks_eq_ok_iff (params chosen : Params) (kind : Quorum.Kind) :
    params.withChainLocks kind = .ok chosen ↔
      (params.network = .dev ∧ params.quorums.contains kind = true) ∧
        chosen = { params with chainLocks := kind } := by
  unfold withChainLocks
  by_cases hnetwork : params.network = .dev
  · by_cases hcontains : params.quorums.contains kind = true
    · simp [hnetwork, hcontains, eq_comm]
    · simp [hnetwork, hcontains]
  · simp [hnetwork]

theorem Valid.withChainLocks {params chosen : Params} {kind : Quorum.Kind}
    (hvalid : params.Valid) (hchosen : params.withChainLocks kind = .ok chosen) :
    chosen.Valid := by
  obtain ⟨⟨-, hcontains⟩, rfl⟩ := (withChainLocks_eq_ok_iff params chosen kind).mp hchosen
  exact { hvalid with chainLocks := hcontains }

end Params

end Chain

namespace Node.Config

/-- A configuration selects the parameters of a network as they are, or changes who
signs chain locks. -/
theorem chainParams_cases {cfg : Config} {params : Chain.Params}
    (hparams : cfg.chainParams = .ok params) :
    ∃ network, cfg.networkKind = .ok network ∧
      (params = Chain.Params.ofNetwork network ∨
        ∃ kind, (Chain.Params.ofNetwork network).withChainLocks kind = .ok params) := by
  unfold chainParams at hparams
  cases hnetwork : cfg.networkKind with
  | error cause =>
      rw [hnetwork] at hparams
      cases hparams
  | ok network =>
      rw [hnetwork] at hparams
      refine ⟨network, rfl, ?_⟩
      cases hname : cfg.chainLocks with
      | none =>
          rw [hname] at hparams
          cases hparams
          exact Or.inl rfl
      | some name =>
          rw [hname] at hparams
          cases hkind : Quorum.Kind.parse name with
          | error cause =>
              simp only [hkind] at hparams
              cases hparams
          | ok kind =>
              simp only [hkind] at hparams
              exact Or.inr ⟨kind, hparams⟩

theorem valid_of_chainParams {cfg : Config} {params : Chain.Params}
    (hparams : cfg.chainParams = .ok params) : params.Valid := by
  obtain ⟨network, -, rfl | ⟨kind, hchosen⟩⟩ := chainParams_cases hparams
  · exact Chain.Params.valid_ofNetwork network
  · exact (Chain.Params.valid_ofNetwork network).withChainLocks hchosen

end Node.Config

end QuorumNode
