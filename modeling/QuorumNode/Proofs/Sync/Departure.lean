/-
How a sync that nobody advances by hand gets past the blockchain stage.  A tick
waits for the best header, but a peer may declare the stage complete at any time,
and then nothing asks for the best header again.
-/
import Mathlib.Data.List.Induction
import QuorumNode.Proofs.Sync.Evidence

namespace QuorumNode.Sync

namespace Stage

theorem blockchain_lt_iff (stage : Stage) :
    blockchain.id < stage.id ↔ stage ≠ failed ∧ stage ≠ blockchain := by
  cases stage <;> decide

end Stage

namespace State

/-- The best header was reached at some moment since the sync last started. -/
def ReachedSince (cfg : Settings) (began : Int) (calls : List Call) : Prop :=
  ∃ earlier rest, calls = earlier ++ rest ∧
    ((start began).run cfg earlier).reachedBest = true ∧
    ((start began).run cfg earlier).Unbroken cfg rest

/-- Since the sync last started, a peer has said in the blockchain stage that it
served all of that stage. -/
def VouchedSince (cfg : Settings) (began : Int) (calls : List Call) : Prop :=
  ∃ earlier x rest, calls = earlier ++ x :: rest ∧
    ((start began).run cfg earlier).stage = .blockchain ∧
    (∃ sender count, x.op = .receive sender (.statusCount Stage.blockchain.id count)) ∧
    ((start began).run cfg earlier).Unbroken cfg (x :: rest)

variable {cfg : Settings} {began : Int} {s : State} {calls : List Call} {call : Call}

theorem blockchainSynced_iff :
    s.blockchainSynced = true ↔ s.stage ≠ .failed ∧ s.stage ≠ .blockchain := by
  rw [blockchainSynced, decide_eq_true_eq, Stage.blockchain_lt_iff]

theorem reachedSince_of_reachedBest
    (hreached : ((start began).run cfg calls).reachedBest = true) :
    ReachedSince cfg began calls :=
  ⟨calls, [], (List.append_nil calls).symm, hreached, unbroken_nil cfg _⟩

theorem ReachedSince.concat (hsince : ReachedSince cfg began calls)
    (hrestarts : ((start began).run cfg calls).restarts cfg call = false) :
    ReachedSince cfg began (calls ++ [call]) := by
  obtain ⟨earlier, rest, rfl, hreached, hunbroken⟩ := hsince
  rw [run_append] at hrestarts
  exact ⟨earlier, rest ++ [call], List.append_assoc .., hreached,
    unbroken_concat.mpr ⟨hunbroken, hrestarts⟩⟩

theorem VouchedSince.concat (hsince : VouchedSince cfg began calls)
    (hrestarts : ((start began).run cfg calls).restarts cfg call = false) :
    VouchedSince cfg began (calls ++ [call]) := by
  obtain ⟨earlier, x, rest, rfl, hstage, hserved, hunbroken⟩ := hsince
  rw [run_append] at hrestarts
  exact ⟨earlier, x, rest ++ [call], List.append_assoc .., hstage, hserved,
    unbroken_concat.mpr ⟨hunbroken, hrestarts⟩⟩

theorem vouchedSince_of_served (hstage : ((start began).run cfg calls).stage = .blockchain)
    (hserved : ((start began).run cfg calls).Served call)
    (hrestarts : ((start began).run cfg calls).restarts cfg call = false) :
    VouchedSince cfg began (calls ++ [call]) := by
  obtain ⟨sender, count, hop⟩ := hserved
  rw [hstage] at hop
  exact ⟨calls, call, [], rfl, hstage, ⟨sender, count, hop⟩,
    unbroken_cons.mpr ⟨hrestarts, unbroken_nil cfg _⟩⟩

/-- What a call has to do with a sync that is past the blockchain stage after it:
it found the sync there, or it led out of that stage. -/
theorem departure_cases (hauto : call.op ≠ .advance)
    (hsynced : (s.after cfg call).blockchainSynced = true) :
    s.restarts cfg call = false ∧
      (s.blockchainSynced = true ∨
        s.stage = .blockchain ∧ (s.Served call ∨ s.reachedBest = true)) := by
  rw [blockchainSynced_iff] at hsynced
  obtain ⟨hunfailed, hpast⟩ := hsynced
  have hrestarts : s.restarts cfg call = false := by
    rw [← Bool.not_eq_true]
    exact fun htrue => hpast (after_stage_of_restarts htrue)
  refine ⟨hrestarts, ?_⟩
  rcases s.after_stage_cases cfg call with
    hsame | ⟨hnext, hadvance | hserved | ⟨hticks, hstage, hgovernance⟩⟩ | ⟨hfailed, -, -⟩ |
      ⟨hblockchain, -⟩
  · rw [hsame] at hunfailed hpast
    exact Or.inl (blockchainSynced_iff.mpr ⟨hunfailed, hpast⟩)
  · exact absurd hadvance hauto
  · by_cases hstage : s.stage = .blockchain
    · exact Or.inr ⟨hstage, Or.inl hserved⟩
    · have hstarted : s.stage ≠ .failed := by
        intro hfailed
        rw [hfailed] at hnext
        cases hnext
      exact Or.inl (blockchainSynced_iff.mpr ⟨hstarted, hstage⟩)
  · obtain ⟨-, -, hnoted, -⟩ := settled_of_tick hticks hstage hgovernance
    exact Or.inr ⟨hstage, Or.inr (reachedBest_of_notedReached hticks hnoted)⟩
  · exact absurd hfailed hunfailed
  · exact absurd hblockchain hpast

theorem reachedSince_or_vouchedSince (cfg : Settings) (began : Int) (calls : List Call)
    (hauto : ∀ call ∈ calls, call.op ≠ .advance)
    (hsynced : ((start began).run cfg calls).blockchainSynced = true) :
    ReachedSince cfg began calls ∨ VouchedSince cfg began calls := by
  induction calls using List.reverseRecOn with
  | nil => cases hsynced
  | append_singleton calls call ih =>
      rw [List.forall_mem_append, List.forall_mem_singleton] at hauto
      rw [run_concat] at hsynced
      -- The account of an earlier departure still stands, since nothing restarts here.
      obtain ⟨hrestarts, hbefore | ⟨hstage, hserved | hreached⟩⟩ :=
        departure_cases hauto.2 hsynced
      · rcases ih hauto.1 hbefore with hsince | hsince
        · exact Or.inl (hsince.concat hrestarts)
        · exact Or.inr (hsince.concat hrestarts)
      · exact Or.inr (vouchedSince_of_served hstage hserved hrestarts)
      · exact Or.inl ((reachedSince_of_reachedBest hreached).concat hrestarts)

/-- Without a restart nothing leads back to the blockchain stage. -/
theorem stage_ne_blockchain_of_unbroken (rest : List Call) (hstage : s.stage ≠ .blockchain)
    (hunbroken : s.Unbroken cfg rest) : (s.run cfg rest).stage ≠ .blockchain := by
  induction rest generalizing s with
  | nil => exact hstage
  | cons call rest ih =>
      obtain ⟨hrestarts, hrest⟩ := unbroken_cons.mp hunbroken
      exact ih (fun hafter => hstage (stage_eq_blockchain_of_after hrestarts hafter)) hrest

/-- A peer that says so is believed, connected or not. -/
theorem after_stage_of_served (cfg : Settings) (hstage : s.stage = .blockchain)
    (hserved : s.Served call) : (s.after cfg call).stage = .governance := by
  obtain ⟨now, peers, op⟩ := call
  obtain ⟨sender, count, hop⟩ := hserved
  change op = _ at hop
  subst hop
  have hcompleted : s.disposition (.statusCount s.stage.id count) = .completed :=
    disposition_of_served (by rw [hstage]; rfl) rfl
  have hmove : s.move cfg ⟨now, peers, .receive sender (.statusCount s.stage.id count)⟩ =
      s.forward peers := by
    simp only [move, hcompleted]
  rw [after_stage, hmove, forward, hstage]
  rfl

theorem VouchedSince.stage_ne_blockchain (hsince : VouchedSince cfg began calls) :
    ((start began).run cfg calls).stage ≠ .blockchain := by
  obtain ⟨earlier, x, rest, rfl, hstage, ⟨sender, count, hop⟩, hunbroken⟩ := hsince
  have hserved : ((start began).run cfg earlier).Served x :=
    ⟨sender, count, by rw [hop, hstage]⟩
  have hgovernance := after_stage_of_served cfg hstage hserved
  rw [run_append, run_cons]
  refine stage_ne_blockchain_of_unbroken rest ?_ (unbroken_cons.mp hunbroken).2
  rw [hgovernance]
  exact Stage.noConfusion

/-- Messages have no say in whether the best header is reached. -/
theorem after_reachedBest_of_receive {sender : Peer} {message : Message}
    (hop : call.op = .receive sender message) :
    (s.after cfg call).reachedBest = s.reachedBest := by
  obtain ⟨now, peers, op⟩ := call
  subst hop
  simp [after_reachedBest, restarts, notedReached, drops, confirms]

theorem run_reachedBest_of_messages (calls : List Call)
    (hmessages : ∀ call ∈ calls, ∃ sender message, call.op = .receive sender message) :
    (s.run cfg calls).reachedBest = s.reachedBest := by
  induction calls generalizing s with
  | nil => rfl
  | cons call rest ih =>
      obtain ⟨⟨sender, message, hop⟩, hrest⟩ := List.forall_mem_cons.mp hmessages
      rw [run_cons, ih hrest, after_reachedBest_of_receive hop]

theorem not_reachedSince_of_messages (cfg : Settings) (began : Int) (calls : List Call)
    (hmessages : ∀ call ∈ calls, ∃ sender message, call.op = .receive sender message) :
    ¬ReachedSince cfg began calls := by
  rintro ⟨earlier, rest, rfl, hreached, -⟩
  have hearlier := (List.forall_mem_append.mp hmessages).1
  rw [run_reachedBest_of_messages earlier hearlier] at hreached
  cases hreached

end State

open State in
/-- In every run that nobody advances by hand, the blockchain counts as synchronised
only after the best header was reached or a peer vouched for it.  A peer's word is all
it takes: a sync that was vouched for counts as synchronised as long as it has not
failed, and messages alone never lead to the best header. -/
theorem reached_or_vouched_of_synced (cfg : Settings) (began : Int) (calls : List Call)
    (hauto : ∀ call ∈ calls, call.op ≠ .advance) :
    (((start began).run cfg calls).blockchainSynced = true →
      ReachedSince cfg began calls ∨ VouchedSince cfg began calls) ∧
    (VouchedSince cfg began calls →
      ((start began).run cfg calls).blockchainSynced = true ∨
        ((start began).run cfg calls).stage = .failed) ∧
    ((∀ call ∈ calls, ∃ sender message, call.op = .receive sender message) →
      ¬ReachedSince cfg began calls) := by
  refine ⟨reachedSince_or_vouchedSince cfg began calls hauto, ?_,
    not_reachedSince_of_messages cfg began calls⟩
  intro hvouched
  by_cases hfailed : ((start began).run cfg calls).stage = .failed
  · exact Or.inr hfailed
  · have hpast := hvouched.stage_ne_blockchain
    exact Or.inl (blockchainSynced_iff.mpr ⟨hfailed, hpast⟩)

/-- One message from somebody who is not connected is enough. -/
theorem reached_or_vouched_of_synced_one_message :
    let calls : List Call := [⟨0, [], .receive "p" (.statusCount 1 0)⟩]
    (∀ call ∈ calls, call.op ≠ .advance) ∧ State.VouchedSince {} 0 calls ∧
      ¬State.ReachedSince {} 0 calls := by
  intro calls
  have hauto : ∀ call ∈ calls, call.op ≠ .advance := by decide
  obtain ⟨hsynced, -, hmessages⟩ := reached_or_vouched_of_synced {} 0 calls hauto
  have hunreached : ¬State.ReachedSince {} 0 calls := by
    apply hmessages
    intro call hcall
    rw [List.mem_singleton.mp hcall]
    exact ⟨"p", .statusCount 1 0, rfl⟩
  exact ⟨hauto, (hsynced rfl).resolve_left hunreached, hunreached⟩

/-- A sync that has only just begun passes for synchronised after one message. -/
theorem synced_unreached_one_message :
    let calls : List Call := [⟨0, [], .receive "p" (.statusCount 1 0)⟩]
    (∀ call ∈ calls, call.op ≠ .advance) ∧
      ((State.start 0).run {} calls).blockchainSynced = true ∧
      ¬State.ReachedSince {} 0 calls := by
  intro calls
  refine ⟨by decide, rfl, ?_⟩
  apply State.not_reachedSince_of_messages
  intro call hcall
  rw [List.mem_singleton.mp hcall]
  exact ⟨"p", .statusCount 1 0, rfl⟩

end QuorumNode.Sync
