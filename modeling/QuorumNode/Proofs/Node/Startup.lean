/-
A node that starts keeps what it was started with: whatever happens to it, it has
sound parameters for the two quorums that sign.
-/
import QuorumNode.Proofs.Chain.Check
import QuorumNode.Proofs.Node.Site

namespace QuorumNode.Node

namespace Site

theorem run_upholds {params : Chain.Params} (hquorums : params.quorums.Valid)
    (settings : Sync.Settings) (began : Int) (peers : List Sync.Peer) (estimate : Estimate)
    (happenings : List Happening) :
    ((start params settings began peers estimate).run happenings).node.registry.Upholds
      params.quorums := by
  rw [run_registry]
  exact (Quorum.Registry.upholds_ofTable hquorums).run _

end Site

/-- Any configuration that selects chain parameters selects ones that pass the check,
and a node started from them never looks in vain for the quorums that sign: through
all that can happen the registry has sound parameters for both, each filed under its
kind.  The signer of chain locks can be changed on a devnet, to any quorum that is
there, and nothing else changes with it. -/
theorem signing_quorums_of_start :
    (∀ (cfg : Config) (params : Chain.Params), cfg.chainParams = .ok params →
      params.check = .ok () ∧
      ∀ settings began peers estimate happenings,
        let node := ((Site.start params settings began peers estimate).run happenings).node
        (∃ p, node.chainLockParams = .ok p ∧ p.kind = params.chainLocks) ∧
        (∃ p, node.instantSendParams = .ok p ∧ p.kind = params.instantSend) ∧
        ∀ kind p, node.registry.table.get? kind = some p → p.check = .ok () ∧ p.kind = kind) ∧
    ∀ (params : Chain.Params) (kind : Quorum.Kind), params.check = .ok () →
      ((∃ chosen, params.withChainLocks kind = .ok chosen) ↔
        params.network = .dev ∧ params.quorums.contains kind = true) ∧
      ∀ chosen, params.withChainLocks kind = .ok chosen →
        chosen.check = .ok () ∧ chosen = { params with chainLocks := kind } := by
  constructor
  · intro cfg params hparams
    have hvalid := Config.valid_of_chainParams hparams
    refine ⟨params.check_eq_ok_iff.mpr hvalid, ?_⟩
    intro settings began peers estimate happenings node
    have hsame : node.params = params :=
      Site.run_params (Site.start params settings began peers estimate) happenings
    have hupholds : node.registry.Upholds params.quorums :=
      Site.run_upholds hvalid.quorums settings began peers estimate happenings
    refine ⟨?_, ?_, ?_⟩
    · rw [Context.chainLockParams, hsame]
      exact hupholds.active hvalid.chainLocks
    · rw [Context.instantSendParams, hsame]
      exact hupholds.active hvalid.instantSend
    · intro kind p hget
      have hsound := hupholds.valid p (Quorum.Table.mem_of_get? hget)
      exact ⟨p.check_eq_ok_iff.mpr hsound, Quorum.Table.kind_of_get? hget⟩
  · intro params kind hcheck
    have hvalid := params.check_eq_ok_iff.mp hcheck
    refine ⟨?_, ?_⟩
    · constructor
      · rintro ⟨chosen, hchosen⟩
        exact ((params.withChainLocks_eq_ok_iff chosen kind).mp hchosen).1
      · intro hallowed
        exact ⟨_, (params.withChainLocks_eq_ok_iff _ kind).mpr ⟨hallowed, rfl⟩⟩
    · intro chosen hchosen
      have hkept := hvalid.withChainLocks hchosen
      exact ⟨chosen.check_eq_ok_iff.mpr hkept,
        ((params.withChainLocks_eq_ok_iff chosen kind).mp hchosen).2⟩

/-- A devnet on which another quorum signs the chain locks, once it has grown and been
maintained. -/
theorem signing_quorums_of_start_devnet :
    let cfg : Config := { network := " DevNet", chainLocks := some "llmq_400_85" }
    let params : Chain.Params :=
      { Chain.Params.ofNetwork .dev with chainLocks := .llmq400_85 }
    cfg.chainParams = .ok params ∧
      ∃ p, ((Site.start params {} 0 ["p"] ⟨100, false⟩).run
        [.sync (.perform 1 (.blockTip ⟨9, ⟨7⟩⟩ true)), .maintain 5]).node.chainLockParams = .ok p ∧
          p.kind = .llmq400_85 := by
  intro cfg params
  have hparams : cfg.chainParams = .ok params := by decide +kernel
  exact ⟨hparams, ((signing_quorums_of_start.1 cfg params hparams).2 _ _ _ _ _).1⟩

end QuorumNode.Node
