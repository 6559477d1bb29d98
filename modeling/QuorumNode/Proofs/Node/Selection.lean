/-
What a configuration selects and what it is refused for.  Neither the blanks around the
two texts nor the case of their letters count, and of several faults the first one is
reported: the network, then the text of the override, then its use off the devnet, then
its kind.
-/
import QuorumNode.Node.Config
import QuorumNode.Proofs.Chain.Spelling
import QuorumNode.Proofs.Quorum.Spelling

namespace QuorumNode.Node

open QuorumNode.Text (CaseVariant)

/-- The same outcome, but for the case of the letters in a text that names no kind. -/
inductive Agree : Except Chain.Error Chain.Params → Except Chain.Error Chain.Params → Prop
  | same (outcome : Except Chain.Error Chain.Params) : Agree outcome outcome
  | unknownKind {text other : String}
      (hcase : List.Forall₂ CaseVariant text.toList other.toList) :
      Agree (.error (.invalidQuorum (.unknownKind text)))
        (.error (.invalidQuorum (.unknownKind other)))

namespace Config

/-- What is reported of a configuration that selects no parameters. -/
inductive Refused (cfg : Config) : Chain.Error → Prop
  | network (hnone : ∀ network : Chain.Network, ¬network.Spells cfg.network) :
      Refused cfg (.unknownNetwork (Chain.Network.normalText cfg.network))
  | override {network : Chain.Network} {name : String}
      (hnetwork : network.Spells cfg.network) (hname : cfg.chainLocks = some name)
      (hnone : ∀ kind : Quorum.Kind, ¬kind.Spells (Text.trimmed name)) :
      Refused cfg (.invalidQuorum (.unknownKind (Text.trimmed name)))
  | elsewhere {network : Chain.Network} {name : String} {kind : Quorum.Kind}
      (hnetwork : network.Spells cfg.network) (hname : cfg.chainLocks = some name)
      (hkind : kind.Spells (Text.trimmed name)) (hother : network ≠ .dev) :
      Refused cfg (.overrideNotAllowed network)
  | missing {name : String} {kind : Quorum.Kind}
      (hnetwork : Chain.Network.dev.Spells cfg.network) (hname : cfg.chainLocks = some name)
      (hkind : kind.Spells (Text.trimmed name))
      (hmissing : (Chain.Params.ofNetwork .dev).quorums.contains kind = false) :
      Refused cfg (.unknownQuorum kind)

variable {cfg : Config} {network : Chain.Network} {name : String}

/-! One equation for each way to read the two texts -/

theorem chainParams_of_refused_network {e : Chain.Error}
    (hnetwork : Chain.Network.parse cfg.network = .error e) : cfg.chainParams = .error e := by
  rw [chainParams, networkKind, hnetwork]
  rfl

theorem chainParams_of_plain (hnetwork : Chain.Network.parse cfg.network = .ok network)
    (hname : cfg.chainLocks = none) : cfg.chainParams = .ok (Chain.Params.ofNetwork network) := by
  rw [chainParams, networkKind, hnetwork, hname]
  rfl

theorem chainParams_of_refused_kind {cause : Quorum.Error}
    (hnetwork : Chain.Network.parse cfg.network = .ok network)
    (hname : cfg.chainLocks = some name) (hkind : Quorum.Kind.parse name = .error cause) :
    cfg.chainParams = .error (.invalidQuorum cause) := by
  simp only [chainParams, networkKind, hnetwork, hname, hkind]
  rfl

theorem chainParams_of_override {kind : Quorum.Kind}
    (hnetwork : Chain.Network.parse cfg.network = .ok network)
    (hname : cfg.chainLocks = some name) (hkind : Quorum.Kind.parse name = .ok kind) :
    cfg.chainParams = (Chain.Params.ofNetwork network).withChainLocks kind := by
  simp only [chainParams, networkKind, hnetwork, hname, hkind]
  rfl

/-! The order of the faults -/

theorem network_ofNetwork (network : Chain.Network) :
    (Chain.Params.ofNetwork network).network = network := by
  cases network <;> rfl

theorem withChainLocks_eq_error_iff (params : Chain.Params) (kind : Quorum.Kind)
    (e : Chain.Error) :
    params.withChainLocks kind = .error e ↔
      params.network ≠ .dev ∧ e = .overrideNotAllowed params.network ∨
        params.network = .dev ∧ params.quorums.contains kind = false ∧
          e = .unknownQuorum kind := by
  unfold Chain.Params.withChainLocks
  split
  · next hother => simp [hother, eq_comm (a := e)]
  · next hdev =>
      have hdev : params.network = .dev := not_not.mp hdev
      cases hcontains : params.quorums.contains kind with
      | true => simp [hdev]
      | false => simp [hdev, eq_comm (a := e)]

theorem chainParams_eq_error_iff (cfg : Config) (e : Chain.Error) :
    cfg.chainParams = .error e ↔ cfg.Refused e := by
  constructor
  · intro herror
    cases hnetwork : Chain.Network.parse cfg.network with
    | error cause =>
        rw [chainParams_of_refused_network hnetwork] at herror
        cases herror
        obtain ⟨hnone, rfl⟩ := Chain.Network.parse_eq_error_iff.mp hnetwork
        exact .network hnone
    | ok network =>
        have hspells := Chain.Network.parse_eq_ok_iff.mp hnetwork
        cases hname : cfg.chainLocks with
        | none =>
            rw [chainParams_of_plain hnetwork hname] at herror
            cases herror
        | some name =>
            cases hkind : Quorum.Kind.parse name with
            | error cause =>
                rw [chainParams_of_refused_kind hnetwork hname hkind] at herror
                cases herror
                obtain ⟨hnone, rfl⟩ := Quorum.Kind.parse_eq_error_iff.mp hkind
                exact .override hspells hname hnone
            | ok kind =>
                have hmeans := Quorum.Kind.parse_eq_ok_iff.mp hkind
                rw [chainParams_of_override hnetwork hname hkind, withChainLocks_eq_error_iff,
                  network_ofNetwork] at herror
                rcases herror with ⟨hother, rfl⟩ | ⟨rfl, hmissing, rfl⟩
                · exact .elsewhere hspells hname hmeans hother
                · exact .missing hspells hname hmeans hmissing
  · intro hrefused
    cases hrefused with
    | network hnone =>
        exact chainParams_of_refused_network (Chain.Network.parse_eq_error_iff.mpr ⟨hnone, rfl⟩)
    | override hnetwork hname hnone =>
        exact chainParams_of_refused_kind (Chain.Network.parse_eq_ok_iff.mpr hnetwork) hname
          (Quorum.Kind.parse_eq_error_iff.mpr ⟨hnone, rfl⟩)
    | elsewhere hnetwork hname hkind hother =>
        rw [chainParams_of_override (Chain.Network.parse_eq_ok_iff.mpr hnetwork) hname
          (Quorum.Kind.parse_eq_ok_iff.mpr hkind), withChainLocks_eq_error_iff, network_ofNetwork]
        exact Or.inl ⟨hother, rfl⟩
    | missing hnetwork hname hkind hmissing =>
        rw [chainParams_of_override (Chain.Network.parse_eq_ok_iff.mpr hnetwork) hname
          (Quorum.Kind.parse_eq_ok_iff.mpr hkind), withChainLocks_eq_error_iff, network_ofNetwork]
        exact Or.inr ⟨rfl, hmissing, rfl⟩

/-! Two configurations that are spelled alike -/

/-- Alike texts mean the same kind, or both mean none. -/
theorem agree_of_alike_override {cfg other : Config} {name written : String}
    (hcfg : Chain.Network.parse cfg.network = .ok network)
    (hother : Chain.Network.parse other.network = .ok network)
    (hname : cfg.chainLocks = some name) (hwritten : other.chainLocks = some written)
    (halike : Text.Alike name written) : Agree cfg.chainParams other.chainParams := by
  cases hkind : Quorum.Kind.parse name with
  | ok kind =>
      have hsame : Quorum.Kind.parse written = .ok kind := by
        rw [Quorum.Kind.parse_eq_ok_iff] at hkind ⊢
        exact (Quorum.Kind.spells_congr halike).mp hkind
      rw [chainParams_of_override hcfg hname hkind, chainParams_of_override hother hwritten hsame]
      exact .same _
  | error cause =>
      obtain ⟨hnone, rfl⟩ := Quorum.Kind.parse_eq_error_iff.mp hkind
      have hrefused : Quorum.Kind.parse written =
          .error (.unknownKind (Text.trimmed written)) := by
        refine Quorum.Kind.parse_eq_error_iff.mpr ⟨?_, rfl⟩
        intro kind hspells
        exact hnone kind ((Quorum.Kind.spells_congr halike).mpr hspells)
      rw [chainParams_of_refused_kind hcfg hname hkind,
        chainParams_of_refused_kind hother hwritten hrefused]
      exact .unknownKind halike.forall₂_trimmed

theorem agree_of_alike {cfg other : Config} (hnetwork : Text.Alike cfg.network other.network)
    (hchainLocks : Option.Rel Text.Alike cfg.chainLocks other.chainLocks) :
    Agree cfg.chainParams other.chainParams := by
  have hsame : Chain.Network.parse cfg.network = Chain.Network.parse other.network :=
    Chain.Network.parse_congr hnetwork
  cases hother : Chain.Network.parse other.network with
  | error e =>
      rw [chainParams_of_refused_network (hsame.trans hother),
        chainParams_of_refused_network hother]
      exact .same _
  | ok network =>
      cases hname : cfg.chainLocks with
      | none =>
          cases hwritten : other.chainLocks with
          | none =>
              rw [chainParams_of_plain (hsame.trans hother) hname,
                chainParams_of_plain hother hwritten]
              exact .same _
          | some written =>
              rw [hname, hwritten] at hchainLocks
              cases hchainLocks
      | some name =>
          cases hwritten : other.chainLocks with
          | none =>
              rw [hname, hwritten] at hchainLocks
              cases hchainLocks
          | some written =>
              rw [hname, hwritten] at hchainLocks
              cases hchainLocks with
              | some halike =>
                  exact agree_of_alike_override (hsame.trans hother) hother hname hwritten halike

end Config

/-- Two configurations whose texts differ in blanks around them and in the case of letters
select the same parameters, or are refused alike; a text that names no kind is reported in
the letters it was written in.  The network is judged before the override, the text of the
override before its place, and its place before its kind.  The name of an unknown network
is reported in a form that would be reported again as it is. -/
theorem selection_of_alike_texts :
    (∀ cfg other : Config, Text.Alike cfg.network other.network →
      Option.Rel Text.Alike cfg.chainLocks other.chainLocks →
      Agree cfg.chainParams other.chainParams) ∧
    (∀ (cfg : Config) e, cfg.chainParams = .error e ↔ cfg.Refused e) ∧
    ∀ text e, Chain.Network.parse text = .error e →
      ∃ name, e = .unknownNetwork name ∧ Chain.Network.parse name = .error e :=
  ⟨fun _ _ => Config.agree_of_alike, Config.chainParams_eq_error_iff,
    fun _ _ => Chain.Network.parse_of_refused⟩

/-- On a devnet an override that names no kind, in two spellings. -/
theorem selection_of_alike_texts_unknown_kind :
    let cfg : Config := { network := "\u3000DevNet ", chainLocks := some " LLMQ_7_7\n" }
    let other : Config := { network := "devnet", chainLocks := some "Llmq_7_7" }
    Text.Alike cfg.network other.network ∧
      Option.Rel Text.Alike cfg.chainLocks other.chainLocks ∧
      cfg.chainParams = .error (.invalidQuorum (.unknownKind "LLMQ_7_7")) ∧
      cfg.Refused (.invalidQuorum (.unknownKind "LLMQ_7_7")) ∧
      Agree cfg.chainParams other.chainParams := by
  intro cfg other
  obtain ⟨hagree, hrefused, -⟩ := selection_of_alike_texts
  have hnetwork : Text.Alike cfg.network other.network := Text.alike_iff.mpr (by decide +kernel)
  have hchainLocks : Option.Rel Text.Alike cfg.chainLocks other.chainLocks :=
    .some (Text.alike_iff.mpr (by decide +kernel))
  have herror : cfg.chainParams = .error (.invalidQuorum (.unknownKind "LLMQ_7_7")) := by
    decide +kernel
  exact ⟨hnetwork, hchainLocks, herror, (hrefused cfg _).mp herror,
    hagree cfg other hnetwork hchainLocks⟩

end QuorumNode.Node
