/-
Why parameters are refused at start-up.  Of all that is wrong with them one thing is
reported: the first broken rule of the least quorum that breaks one, else a quorum that signs
and is missing, else a genesis block that is not the first checkpoint.  The order in which the
quorums were filed has no part in it.
-/
import QuorumNode.Proofs.Chain.Check

namespace QuorumNode

namespace Quorum

namespace Params

/-- The first rule that the parameters break: the interval, the window, or the threshold. -/
inductive Breaks (p : Params) : Error → Prop
  | interval (hinterval : p.interval = 0) : p.Breaks (.zeroInterval p.name)
  | window (hinterval : 0 < p.interval)
      (hwindow : ¬(p.windowFirst ≤ p.windowLast ∧ p.windowLast < p.interval)) :
      p.Breaks (.miningWindow p.name p.windowFirst p.windowLast p.interval)
  | threshold (hinterval : 0 < p.interval)
      (hwindow : p.windowFirst ≤ p.windowLast ∧ p.windowLast < p.interval)
      (hthreshold : ¬(1 ≤ p.threshold ∧ p.threshold ≤ p.minSize ∧ p.minSize ≤ p.size)) :
      p.Breaks (.threshold p.name p.threshold p.minSize p.size)

theorem check_eq_error_iff (p : Params) (cause : Error) :
    p.check = .error cause ↔ p.Breaks cause := by
  unfold check
  constructor
  · intro hcheck
    split at hcheck
    · next hinterval =>
        cases hcheck
        exact .interval hinterval
    · split at hcheck
      · cases hcheck
        exact .window (by omega) (by omega)
      · split at hcheck
        · cases hcheck
          exact .threshold (by omega) (by omega) (by omega)
        · cases hcheck
  · intro hbreaks
    cases hbreaks with
    | interval hinterval => rw [if_pos hinterval]
    | window hinterval hwindow => rw [if_neg (by omega), if_pos (by omega)]
    | threshold hinterval hwindow hthreshold =>
        rw [if_neg (by omega), if_neg (by omega), if_pos (by omega)]

end Params

namespace Table

/-- Sets of different kinds may be filed in any order, as long as the order within each kind
is the same. -/
theorem foldl_insert_congr {ps qs : List Params}
    (hsame : ∀ kind, ps.filter (·.kind = kind) = qs.filter (·.kind = kind)) (table : Table) :
    ps.foldl insert table = qs.foldl insert table := by
  apply eq_of_get?
  intro kind
  rw [get?_foldl_insert, get?_foldl_insert, ← List.head?_filter, ← List.head?_filter,
    List.filter_reverse, List.filter_reverse, hsame kind]

end Table

end Quorum

namespace Chain

theorem bind_eq_error_iff {first last : Except Error Unit} {e : Error} :
    (first >>= fun _ => last) = .error e ↔ first = .error e ∨ first = .ok () ∧ last = .error e := by
  cases first with
  | error cause => simp [bind, Except.bind]
  | ok passed => simp [bind, Except.bind]

/-- A row of checks fails with the error of the first one that fails. -/
theorem forM_cons_eq_error_iff {α : Type} {f : α → Except Error Unit} {item : α} {rest : List α}
    {e : Error} :
    forM (item :: rest) f = .error e ↔
      f item = .error e ∨ f item = .ok () ∧ forM rest f = .error e := by
  rw [List.forM_cons, bind_eq_error_iff]

namespace Params

/-! The quorums -/

/-- What one set of parameters is refused for. -/
inductive Unsound (item : Quorum.Kind × Quorum.Params) : Error → Prop
  | broken {cause : Quorum.Error} (hbreaks : item.2.Breaks cause) :
      Unsound item (.invalidQuorum cause)
  | misfiled (hvalid : item.2.Valid) (hkind : item.2.kind ≠ item.1) :
      Unsound item (.unknownQuorum item.1)

theorem checkItem_eq_error_iff (item : Quorum.Kind × Quorum.Params) (e : Error) :
    checkItem item = .error e ↔ Unsound item e := by
  rw [checkItem]
  constructor
  · intro hcheck
    cases hset : item.2.check with
    | error cause =>
        rw [hset] at hcheck
        cases hcheck
        exact .broken ((item.2.check_eq_error_iff cause).mp hset)
    | ok passed =>
        simp only [hset] at hcheck
        split at hcheck
        · cases hcheck
        · next hkind =>
            cases hcheck
            exact .misfiled (item.2.check_eq_ok_iff.mp hset) hkind
  · intro hunsound
    cases hunsound with
    | broken hbreaks => rw [(item.2.check_eq_error_iff _).mpr hbreaks]
    | misfiled hvalid hkind =>
        rw [item.2.check_eq_ok_iff.mpr hvalid]
        exact if_neg hkind

/-- Of the sets in a row that ascends, the least one that is unsound is reported. -/
theorem forM_checkItem_eq_error_iff {items : List (Quorum.Kind × Quorum.Params)}
    (hascending : items.Pairwise fun first second => first.1.id < second.1.id) (e : Error) :
    forM items checkItem = .error e ↔
      ∃ item ∈ items, Unsound item e ∧
        ∀ other ∈ items, other.1.id < item.1.id → Sound other := by
  induction items with
  | nil => simp [pure, Except.pure]
  | cons head rest ih =>
      obtain ⟨hhead, hrest⟩ := List.pairwise_cons.mp hascending
      rw [forM_cons_eq_error_iff, ih hrest, checkItem_eq_error_iff, checkItem_eq_ok_iff]
      constructor
      · rintro (hunsound | ⟨hsound, item, hitem, hunsound, hfirst⟩)
        · refine ⟨head, List.mem_cons_self, hunsound, ?_⟩
          intro other hother hless
          rcases List.mem_cons.mp hother with rfl | hlater
          · exact absurd hless (Nat.lt_irrefl _)
          · exact absurd hless (Nat.lt_asymm (hhead other hlater))
        · refine ⟨item, List.mem_cons_of_mem head hitem, hunsound, ?_⟩
          exact List.forall_mem_cons.mpr ⟨fun _ => hsound, hfirst⟩
      · rintro ⟨item, hitem, hunsound, hfirst⟩
        rcases List.mem_cons.mp hitem with rfl | hlater
        · exact Or.inl hunsound
        · obtain ⟨hsound, hbefore⟩ := List.forall_mem_cons.mp hfirst
          exact Or.inr ⟨hsound (hhead item hlater), item, hlater, hunsound, hbefore⟩

/-- In a table nothing is filed under a kind that is not its own, so what is reported is a
broken rule. -/
theorem checkQuorums_eq_error_iff (table : Quorum.Table) (e : Error) :
    checkQuorums table = .error e ↔
      ∃ p ∈ table.entries, (∃ cause, p.Breaks cause ∧ e = .invalidQuorum cause) ∧
        ∀ q ∈ table.entries, q.kind.id < p.kind.id → q.Valid := by
  rw [checkQuorums, forM_checkItem_eq_error_iff table.ascending_items]
  constructor
  · rintro ⟨⟨kind, p⟩, hitem, hunsound, hfirst⟩
    obtain ⟨hp, rfl⟩ := Quorum.Table.mem_items_iff.mp hitem
    refine ⟨p, hp, ?_, ?_⟩
    · cases hunsound with
      | broken hbreaks => exact ⟨_, hbreaks, rfl⟩
      | misfiled _ hkind => exact absurd rfl hkind
    · intro q hq hless
      exact (hfirst (q.kind, q) (Quorum.Table.mem_items_iff.mpr ⟨hq, rfl⟩) hless).1
  · rintro ⟨p, hp, ⟨cause, hbreaks, rfl⟩, hfirst⟩
    refine ⟨(p.kind, p), Quorum.Table.mem_items_iff.mpr ⟨hp, rfl⟩, .broken hbreaks, ?_⟩
    rintro ⟨kind, q⟩ hitem hless
    obtain ⟨hq, rfl⟩ := Quorum.Table.mem_items_iff.mp hitem
    exact ⟨hfirst q hq hless, rfl⟩

/-! The whole check -/

/-- What is reported of parameters that a node cannot rely on. -/
inductive Refused (params : Params) : Error → Prop
  | quorum {p : Quorum.Params} {cause : Quorum.Error} (hp : p ∈ params.quorums.entries)
      (hbreaks : p.Breaks cause)
      (hfirst : ∀ q ∈ params.quorums.entries, q.kind.id < p.kind.id → q.Valid) :
      Refused params (.invalidQuorum cause)
  | chainLocks (hquorums : params.quorums.Valid)
      (hmissing : params.quorums.contains params.chainLocks = false) :
      Refused params (.unknownQuorum params.chainLocks)
  | instantSend (hquorums : params.quorums.Valid)
      (hchainLocks : params.quorums.contains params.chainLocks = true)
      (hmissing : params.quorums.contains params.instantSend = false) :
      Refused params (.unknownQuorum params.instantSend)
  | genesis {genesis checkpoint : Hash} (hquorums : params.quorums.Valid)
      (hchainLocks : params.quorums.contains params.chainLocks = true)
      (hinstantSend : params.quorums.contains params.instantSend = true)
      (hgenesis : params.genesisHash = some genesis)
      (hcheckpoint : params.checkpoints.at? 0 = some checkpoint)
      (hdiffers : genesis ≠ checkpoint) :
      Refused params (.checkpointMismatch params.network 0 genesis checkpoint)

theorem requireKind_eq_error_iff (table : Quorum.Table) (kind : Quorum.Kind) (e : Error) :
    requireKind table kind = .error e ↔ table.contains kind = false ∧ e = .unknownQuorum kind := by
  unfold requireKind
  cases table.contains kind with
  | true => simp
  | false => simp [eq_comm]

theorem checkGenesis_eq_error_iff (params : Params) (e : Error) :
    params.checkGenesis = .error e ↔
      ∃ genesis checkpoint, params.genesisHash = some genesis ∧
        params.checkpoints.at? 0 = some checkpoint ∧ genesis ≠ checkpoint ∧
        e = .checkpointMismatch params.network 0 genesis checkpoint := by
  unfold checkGenesis
  cases params.genesisHash with
  | none => simp
  | some genesis =>
      cases params.checkpoints.at? 0 with
      | none => simp
      | some checkpoint => by_cases hsame : genesis = checkpoint <;> simp [hsame, eq_comm]

theorem check_eq_error_iff (params : Params) (e : Error) :
    params.check = .error e ↔ params.Refused e := by
  rw [check, bind_eq_error_iff, bind_eq_error_iff, bind_eq_error_iff, checkQuorums_eq_error_iff,
    checkQuorums_eq_ok_iff, requireKind_eq_error_iff, requireKind_eq_error_iff,
    requireKind_eq_ok_iff, requireKind_eq_ok_iff, checkGenesis_eq_error_iff]
  constructor
  · rintro (⟨p, hp, ⟨cause, hbreaks, rfl⟩, hfirst⟩ | ⟨hquorums, hsigners⟩)
    · exact .quorum hp hbreaks hfirst
    rcases hsigners with ⟨hmissing, rfl⟩ | ⟨hchainLocks, ⟨hmissing, rfl⟩ | ⟨hinstantSend, hgenesis⟩⟩
    · exact .chainLocks hquorums hmissing
    · exact .instantSend hquorums hchainLocks hmissing
    · obtain ⟨genesis, checkpoint, hgenesis, hcheckpoint, hdiffers, rfl⟩ := hgenesis
      exact .genesis hquorums hchainLocks hinstantSend hgenesis hcheckpoint hdiffers
  · intro hrefused
    cases hrefused with
    | quorum hp hbreaks hfirst => exact Or.inl ⟨_, hp, ⟨_, hbreaks, rfl⟩, hfirst⟩
    | chainLocks hquorums hmissing => exact Or.inr ⟨hquorums, Or.inl ⟨hmissing, rfl⟩⟩
    | instantSend hquorums hchainLocks hmissing =>
        exact Or.inr ⟨hquorums, Or.inr ⟨hchainLocks, Or.inl ⟨hmissing, rfl⟩⟩⟩
    | genesis hquorums hchainLocks hinstantSend hgenesis hcheckpoint hdiffers =>
        exact Or.inr ⟨hquorums, Or.inr ⟨hchainLocks, Or.inr ⟨hinstantSend,
          _, _, hgenesis, hcheckpoint, hdiffers, rfl⟩⟩⟩

theorem Refused.isFatal {params : Params} {e : Error} (hrefused : params.Refused e) :
    e.isFatal = true := by
  cases hrefused <;> rfl

/-- A kind that is reported as unknown has no parameters. -/
theorem Refused.contains_eq_false {params : Params} {kind : Quorum.Kind}
    (hrefused : params.Refused (.unknownQuorum kind)) : params.quorums.contains kind = false := by
  cases hrefused with
  | chainLocks _ hmissing => exact hmissing
  | instantSend _ _ hmissing => exact hmissing

/-! The genesis block -/

theorem expect_eq_ok_iff (expected? : Option Hash) (found : Hash)
    (mismatch : Hash → Hash → Error) :
    expect expected? found mismatch = .ok () ↔
      ∀ expected, expected? = some expected → expected = found := by
  unfold expect
  cases expected? with
  | none => simp
  | some expected => simp

theorem expect_eq_error {expected? : Option Hash} {found : Hash}
    {mismatch : Hash → Hash → Error} {e : Error}
    (hexpect : expect expected? found mismatch = .error e) :
    ∃ expected, e = mismatch expected found := by
  unfold expect at hexpect
  split at hexpect
  · next expected =>
      split at hexpect
      · cases hexpect
      · cases hexpect
        exact ⟨expected, rfl⟩
  · cases hexpect

theorem verifyGenesis_eq_ok_iff (params : Params) (hash merkleRoot : Hash) :
    params.verifyGenesis hash merkleRoot = .ok () ↔
      (∀ expected, params.genesisMerkleRoot = some expected → expected = merkleRoot) ∧
        ∀ expected, params.genesisHash = some expected → expected = hash := by
  rw [verifyGenesis, bind_eq_ok_iff, expect_eq_ok_iff, expect_eq_ok_iff]

theorem isFatal_of_verifyGenesis {params : Params} {hash merkleRoot : Hash} {e : Error}
    (hverify : params.verifyGenesis hash merkleRoot = .error e) : e.isFatal = true := by
  rw [verifyGenesis, bind_eq_error_iff] at hverify
  rcases hverify with hroot | ⟨-, hgenesis⟩
  · obtain ⟨expected, rfl⟩ := expect_eq_error hroot
    rfl
  · obtain ⟨expected, rfl⟩ := expect_eq_error hgenesis
    rfl

end Params

open Params in
/-- The check at start-up passes exactly for parameters that a node can rely on, and for all
others reports what they are refused for, which is fatal.  No quorum is ever reported as
unknown that has parameters, and the parameters may have been filed in any order that keeps
the order within each kind.  Where a genesis block is fixed and a first checkpoint is known,
the one block that is accepted as the genesis of parameters that pass is both of them. -/
theorem outcome_of_startup_check :
    (∀ params : Params,
      (params.check = .ok () ↔ params.Valid) ∧
      (∀ e, params.check = .error e ↔ params.Refused e) ∧
      (∀ e, params.check = .error e → e.isFatal = true) ∧
      (∀ kind, params.check = .error (.unknownQuorum kind) →
        params.quorums.contains kind = false) ∧
      ∀ hash merkleRoot,
        (∀ e, params.verifyGenesis hash merkleRoot = .error e → e.isFatal = true) ∧
        (params.check = .ok () → params.verifyGenesis hash merkleRoot = .ok () →
          ∀ genesis checkpoint, params.genesisHash = some genesis →
            params.checkpoints.at? 0 = some checkpoint →
            genesis = hash ∧ checkpoint = hash)) ∧
    ∀ (params : Params) (table : Quorum.Table) (ps qs : List Quorum.Params),
      (∀ kind, ps.filter (·.kind = kind) = qs.filter (·.kind = kind)) →
        check { params with quorums := ps.foldl .insert table } =
          check { params with quorums := qs.foldl .insert table } := by
  constructor
  · intro params
    refine ⟨params.check_eq_ok_iff, params.check_eq_error_iff, ?_, ?_, ?_⟩
    · intro e hcheck
      exact ((params.check_eq_error_iff e).mp hcheck).isFatal
    · intro kind hcheck
      exact ((params.check_eq_error_iff _).mp hcheck).contains_eq_false
    · intro hash merkleRoot
      refine ⟨fun e => isFatal_of_verifyGenesis, ?_⟩
      intro hcheck hverify genesis checkpoint hgenesis hcheckpoint
      have hvalid := params.check_eq_ok_iff.mp hcheck
      have hsame : genesis = checkpoint := hvalid.genesis genesis checkpoint hgenesis hcheckpoint
      have hhash : genesis = hash :=
        ((params.verifyGenesis_eq_ok_iff hash merkleRoot).mp hverify).2 genesis hgenesis
      exact ⟨hhash, hsame.symm.trans hhash⟩
  · intro params table ps qs hsame
    rw [Quorum.Table.foldl_insert_congr hsame table]

/-- Of four faults in two quorums and a signer the window of the lesser quorum is reported,
whichever of the two was filed first. -/
theorem outcome_of_startup_check_four_faults :
    let greater : Quorum.Params := { Quorum.Preset.llmq400_60 with threshold := 0 }
    let lesser : Quorum.Params := { Quorum.Preset.llmq50_60 with windowLast := 30, minSize := 51 }
    let params : Params :=
      { Params.ofNetwork .dev with
        quorums := Quorum.Table.ofList [greater, lesser]
        chainLocks := .llmq5_60 }
    params.check = .error (.invalidQuorum (.miningWindow lesser.name 10 30 30)) ∧
      Params.check { params with quorums := Quorum.Table.ofList [lesser, greater] } =
        params.check := by
  intro greater lesser params
  have hbreaks : lesser.Breaks (.miningWindow lesser.name 10 30 30) :=
    .window (by decide) (by decide)
  have hrefused : params.Refused (.invalidQuorum (.miningWindow lesser.name 10 30 30)) :=
    .quorum (by decide) hbreaks (by decide)
  have horder (kind : Quorum.Kind) :
      [lesser, greater].filter (·.kind = kind) = [greater, lesser].filter (·.kind = kind) := by
    cases kind <;> rfl
  exact ⟨((outcome_of_startup_check.1 params).2.1 _).mpr hrefused,
    outcome_of_startup_check.2 params .empty [lesser, greater] [greater, lesser] horder⟩

end Chain

end QuorumNode
