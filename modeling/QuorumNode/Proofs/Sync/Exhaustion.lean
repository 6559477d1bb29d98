/-
How a stage ends that nobody serves.  Every silent tick asks one more peer, until the
attempts are spent or nobody is left; the tick after that fails the sync, and there it
stays.
-/
import QuorumNode.Proofs.Sync.Silence

namespace QuorumNode.Sync

/-- The peers that are left to ask, each of them once and in their order. -/
def leftPeers (asked peers : List Peer) : List Peer :=
  (peers.filter (· ∉ asked)).eraseDups

theorem leftPeers_reverse (asked peers : List Peer) :
    leftPeers asked.reverse peers = leftPeers asked peers := by
  simp only [leftPeers, List.mem_reverse]

theorem head?_eraseDups (peers : List Peer) : peers.eraseDups.head? = peers.head? := by
  cases peers with
  | nil => rfl
  | cons peer rest => rw [List.eraseDups_cons, List.head?_cons, List.head?_cons]

theorem head?_leftPeers (asked peers : List Peer) :
    (leftPeers asked peers).head? = peers.find? (· ∉ asked) := by
  rw [leftPeers, head?_eraseDups, List.head?_filter]

/-- Whoever has been asked is no longer left. -/
theorem leftPeers_cons {asked peers rest : List Peer} {peer : Peer}
    (hleft : leftPeers asked peers = peer :: rest) : leftPeers (peer :: asked) peers = rest := by
  have hfilter : peers.filter (· ∉ peer :: asked) =
      (peers.filter (· ∉ asked)).filter (fun other => !other == peer) := by
    rw [List.filter_filter]
    congr 1
    funext other
    simp [Bool.beq_eq_decide_eq]
  rw [leftPeers, hfilter]
  rw [leftPeers] at hleft
  cases hunasked : peers.filter (· ∉ asked) with
  | nil =>
      rw [hunasked] at hleft
      cases hleft
  | cons first others =>
      rw [hunasked, List.eraseDups_cons] at hleft
      obtain ⟨rfl, hrest⟩ := List.cons.inj hleft
      rw [List.filter_cons_of_neg (by simp)]
      exact hrest

namespace State

/-- The peers that were asked in the session that a run has come to, in order. -/
def askedPeers (cfg : Settings) (began : Int) (calls : List Call) : List Peer :=
  ((start began).trace cfg calls).foldl
    (fun asked x =>
      let peers := (x.outcome cfg).requests.map Request.peer
      if x.Opens cfg then peers else asked ++ peers)
    []

/-- A stage is under way, and it is not a blockchain that only waits for quiet. -/
def Pending (s : State) : Prop :=
  s.stage.terminal = false ∧ ¬(s.stage = .blockchain ∧ s.reachedBest = true)

/-- Due ticks in a row that find the same peers connected, each of them after more than
the timeout.  `bumped` and `ticked` are the times on record before them. -/
def SilentTicks (cfg : Settings) (peers : List Peer) (bumped ticked : Int) : List Call → Prop
  | [] => True
  | call :: later =>
      call.op.ticks = true ∧ call.peers = peers ∧ cfg.timeout < call.now - bumped ∧
        cfg.tick ≤ call.now - ticked ∧ call.now - ticked ≤ cfg.suspendRestart ∧
        SilentTicks cfg peers call.now call.now later

instance decidableSilentTicks (cfg : Settings) (peers : List Peer) (bumped ticked : Int) :
    (ticks : List Call) → Decidable (SilentTicks cfg peers bumped ticked ticks)
  | [] => inferInstanceAs (Decidable True)
  | call :: later =>
      have := decidableSilentTicks cfg peers call.now call.now later
      inferInstanceAs (Decidable (_ ∧ _ ∧ _ ∧ _ ∧ _ ∧ _))

variable {cfg : Settings} {s : State} {call : Call} {peers : List Peer}
  {earlier later : List Call}

/-! Who has been asked -/

theorem after_tried_of_opens (hopens : Step.Opens cfg ⟨s, call⟩) :
    (s.after cfg call).tried = (s.move cfg call).asked.toList := by
  rw [after_tried]
  rcases opens_iff.mp hopens with ⟨notify, hmove⟩ | ⟨next, asked, hmove⟩
  · rw [hmove]
    rfl
  · rw [hmove]
    rfl

/-- The state has on record who was asked in the session, the last peer first. -/
theorem run_tried (cfg : Settings) (began : Int) (calls : List Call) :
    ((start began).run cfg calls).tried = (askedPeers cfg began calls).reverse := by
  induction calls using List.reverseRecOn with
  | nil => rfl
  | append_singleton calls call ih =>
      have hasked : askedPeers cfg began (calls ++ [call]) =
          if Step.Opens cfg ⟨(start began).run cfg calls, call⟩ then
            ((start began).run cfg calls |>.move cfg call).asked.toList
          else
            askedPeers cfg began calls ++
              ((start began).run cfg calls |>.move cfg call).asked.toList := by
        rw [askedPeers, trace_concat, List.foldl_append, ← outcome_peers]
        rfl
      rw [run_concat, hasked]
      by_cases hopens : Step.Opens cfg ⟨(start began).run cfg calls, call⟩
      · rw [if_pos hopens, after_tried_of_opens hopens, Move.reverse_asked]
      · rw [if_neg hopens, after_tried_of_not_opens hopens, ih, List.reverse_append,
          Move.reverse_asked]

/-! What ticks leave behind -/

theorem after_of_fail (hmove : s.move cfg call = .fail) :
    (s.after cfg call).stage = .failed ∧ (s.after cfg call).failedAt = call.now ∧
      (s.after cfg call).attempt = s.attempt + 1 ∧ (s.outcome cfg call).requests = [] := by
  rw [after, outcome_eq_act, hmove]
  exact ⟨rfl, rfl, rfl, rfl⟩

theorem after_of_rest (hmove : s.move cfg call = .rest) :
    (s.after cfg call).stage = s.stage ∧ (s.after cfg call).attempt = s.attempt ∧
      (s.outcome cfg call).requests = [] := by
  rw [after, outcome_eq_act, hmove]
  exact ⟨rfl, rfl, rfl⟩

theorem after_of_retry {peer : Peer} (hmove : s.move cfg call = .retry peer) :
    (s.after cfg call).stage = s.stage ∧ (s.after cfg call).attempt = s.attempt + 1 ∧
      (s.outcome cfg call).requests = [Request.ofStage s.stage peer] := by
  rw [after, outcome_eq_act, hmove]
  exact ⟨rfl, rfl, rfl⟩

/-! One silent tick -/

theorem move_of_silentTicks (hpending : s.Pending)
    (hsilent : SilentTicks cfg peers s.bumpedAt s.tickedAt (call :: later)) :
    s.move cfg call = s.timeOutMove cfg peers := by
  obtain ⟨hticks, hpeers, hsilence, hearly, hlate, -⟩ := hsilent
  have hdue : s.Due cfg call := ⟨hticks, hearly, hlate⟩
  rw [← hpeers]
  apply move_of_silent ⟨hdue, hpending.1, hsilence⟩
  rintro ⟨-, hstage, hnoted, -⟩
  exact hpending.2 ⟨hstage, reachedBest_of_notedReached hticks hnoted⟩

theorem move_of_left (hpending : s.Pending)
    (hsilent : SilentTicks cfg peers s.bumpedAt s.tickedAt (call :: later))
    (hattempt : s.attempt < cfg.maxAttempts) {peer : Peer} {rest : List Peer}
    (hleft : leftPeers s.tried peers = peer :: rest) : s.move cfg call = .retry peer := by
  have huntried : s.untried? peers = some peer := by
    rw [untried?, ← head?_leftPeers, hleft, List.head?_cons]
  rw [move_of_silentTicks hpending hsilent, timeOutMove, huntried]
  exact if_pos hattempt

theorem move_of_spent (hpending : s.Pending)
    (hsilent : SilentTicks cfg peers s.bumpedAt s.tickedAt (call :: later))
    (hspent : cfg.maxAttempts ≤ s.attempt ∨ leftPeers s.tried peers = []) :
    s.move cfg call = .fail := by
  rw [move_of_silentTicks hpending hsilent, timeOutMove, untried?, ← head?_leftPeers]
  rcases hspent with hattempt | hleft
  · split
    · exact if_neg (Nat.not_lt.mpr hattempt)
    · rfl
  · rw [hleft]
    rfl

/-- After a retry the stage is as silent as before. -/
theorem silentTicks_after_retry (hpending : s.Pending)
    (hsilent : SilentTicks cfg peers s.bumpedAt s.tickedAt (call :: later)) {peer : Peer}
    (hmove : s.move cfg call = .retry peer) :
    (s.after cfg call).Pending ∧
      SilentTicks cfg peers (s.after cfg call).bumpedAt (s.after cfg call).tickedAt later := by
  obtain ⟨hticks, -, -, hearly, -, hlater⟩ := hsilent
  obtain ⟨hstage, -⟩ := after_of_retry hmove
  have hbumped : (s.after cfg call).bumpedAt = call.now := by
    rw [after_bumpedAt, hmove]
    rfl
  have hticked : (s.after cfg call).tickedAt = call.now := by
    rw [after_tickedAt, notedTick, if_pos ⟨hticks, Or.inr hearly⟩]
  rw [hbumped, hticked]
  refine ⟨⟨?_, ?_⟩, hlater⟩
  · rw [hstage]
    exact hpending.1
  · rintro ⟨hblockchain, hreached⟩
    rw [hstage] at hblockchain
    rw [after_reachedBest, Bool.and_eq_true] at hreached
    exact hpending.2 ⟨hblockchain, reachedBest_of_notedReached hticks hreached.2⟩

/-! Silent ticks in a row -/

/-- What is left of a session when it has withstood the ticks `earlier` and those of
`later` are still to come. -/
structure Withstands (cfg : Settings) (peers : List Peer) (s : State)
    (earlier later : List Call) : Prop where
  stage : (s.run cfg earlier).stage = s.stage
  attempt : (s.run cfg earlier).attempt = s.attempt + earlier.length
  left : leftPeers (s.run cfg earlier).tried peers =
    (leftPeers s.tried peers).drop earlier.length
  pending : (s.run cfg earlier).Pending
  silent : SilentTicks cfg peers (s.run cfg earlier).bumpedAt (s.run cfg earlier).tickedAt later

theorem withstands_of_silentTicks (hpending : s.Pending)
    (hsilent : SilentTicks cfg peers s.bumpedAt s.tickedAt (earlier ++ later))
    (hattempts : earlier.length ≤ cfg.maxAttempts - s.attempt)
    (hpeers : earlier.length ≤ (leftPeers s.tried peers).length) :
    s.Withstands cfg peers earlier later := by
  induction earlier generalizing s with
  | nil => exact ⟨rfl, rfl, rfl, hpending, hsilent⟩
  | cons call earlier ih =>
      rw [List.length_cons] at hattempts hpeers
      obtain ⟨peer, rest, hleft⟩ : ∃ peer rest, leftPeers s.tried peers = peer :: rest :=
        List.exists_cons_of_length_pos (by omega)
      have hmove := move_of_left hpending hsilent (by omega) hleft
      obtain ⟨hpendingAfter, hsilentAfter⟩ := silentTicks_after_retry hpending hsilent hmove
      obtain ⟨hstage, hattempt, -⟩ := after_of_retry hmove
      have hrest : leftPeers (s.after cfg call).tried peers = rest := by
        rw [after_tried, hmove]
        exact leftPeers_cons hleft
      rw [hleft, List.length_cons] at hpeers
      have hih := ih hpendingAfter hsilentAfter (by omega) (by rw [hrest]; omega)
      refine ⟨?_, ?_, ?_, hih.pending, hih.silent⟩
      · rw [run_cons, hih.stage, hstage]
      · rw [run_cons, hih.attempt, hattempt, List.length_cons]
        omega
      · rw [run_cons, hih.left, hrest, hleft, List.length_cons, List.drop_succ_cons]

theorem ticks_of_silentTicks {bumped ticked : Int} {ticks : List Call}
    (hsilent : SilentTicks cfg peers bumped ticked ticks) :
    ∀ call ∈ ticks, call.op.ticks = true := by
  induction ticks generalizing bumped ticked with
  | nil => simp
  | cons call later ih =>
      obtain ⟨hticks, -, -, -, -, hlater⟩ := hsilent
      exact List.forall_mem_cons.mpr ⟨hticks, ih hlater⟩

/-- A tick has nothing to do once the sync has failed. -/
theorem move_of_failed (hfailed : s.stage = .failed) (hticks : call.op.ticks = true) :
    s.move cfg call = .rest := by
  have hterminal : (s.note cfg call).stage.terminal = true := by
    rw [note_stage, hfailed]
    rfl
  rw [move_of_ticks hticks, tickMove, if_pos hfailed, dueMove, if_pos hterminal]
  split
  · rfl
  · split <;> rfl

/-- How many silent ticks a session withstands: each takes one of the attempts and one
of the peers that are left. -/
def patience (cfg : Settings) (peers : List Peer) (s : State) : Nat :=
  min (cfg.maxAttempts - s.attempt) (leftPeers s.tried peers).length

theorem move_within_patience (hpending : s.Pending)
    (hsilent : SilentTicks cfg peers s.bumpedAt s.tickedAt (earlier ++ call :: later))
    (hwithin : earlier.length < s.patience cfg peers) :
    (s.run cfg earlier).stage = s.stage ∧
      ∃ peer, (leftPeers s.tried peers)[earlier.length]? = some peer ∧
        (s.run cfg earlier).move cfg call = .retry peer := by
  obtain ⟨hattempts, hpeers⟩ := Nat.lt_min.mp hwithin
  have hwithstands :=
    withstands_of_silentTicks hpending hsilent (Nat.le_of_lt hattempts) (Nat.le_of_lt hpeers)
  have hnext := hwithstands.left
  rw [List.drop_eq_getElem_cons hpeers] at hnext
  refine ⟨hwithstands.stage, _, List.getElem?_eq_getElem hpeers, ?_⟩
  refine move_of_left hwithstands.pending hwithstands.silent ?_ hnext
  rw [hwithstands.attempt]
  omega

theorem move_of_patience_spent (hpending : s.Pending)
    (hsilent : SilentTicks cfg peers s.bumpedAt s.tickedAt (earlier ++ call :: later))
    (hspent : earlier.length = s.patience cfg peers) :
    (s.run cfg earlier).attempt = s.attempt + s.patience cfg peers ∧
      (s.run cfg earlier).move cfg call = .fail := by
  obtain ⟨hattempts, hpeers⟩ := Nat.le_min.mp (Nat.le_of_eq hspent)
  have hwithstands := withstands_of_silentTicks hpending hsilent hattempts hpeers
  refine ⟨by rw [hwithstands.attempt, hspent], ?_⟩
  apply move_of_spent hwithstands.pending hwithstands.silent
  rw [hwithstands.attempt, hwithstands.left]
  -- Whichever of the two bounds is the smaller one has been reached.
  rcases Nat.le_total (cfg.maxAttempts - s.attempt) (leftPeers s.tried peers).length with
    hless | hless
  · rw [patience, Nat.min_eq_left hless] at hspent
    exact Or.inl (by omega)
  · rw [patience, Nat.min_eq_right hless] at hspent
    exact Or.inr (List.drop_eq_nil_of_le (Nat.le_of_eq hspent.symm))

theorem stage_of_patience_exceeded (hpending : s.Pending)
    (hsilent : SilentTicks cfg peers s.bumpedAt s.tickedAt (earlier ++ later))
    (hexceeded : s.patience cfg peers < earlier.length) : (s.run cfg earlier).stage = .failed := by
  obtain ⟨first, call, rest, rfl, hlength⟩ :
      ∃ first call rest, earlier = first ++ call :: rest ∧
        first.length = s.patience cfg peers := by
    refine ⟨earlier.take (s.patience cfg peers), earlier[s.patience cfg peers],
      earlier.drop (s.patience cfg peers + 1), ?_, List.length_take_of_le (by omega)⟩
    rw [← List.drop_eq_getElem_cons hexceeded, List.take_append_drop]
  have hticks := ticks_of_silentTicks hsilent
  rw [List.append_assoc, List.cons_append] at hsilent
  obtain ⟨-, hmove⟩ := move_of_patience_spent hpending hsilent hlength
  obtain ⟨hfailed, -⟩ := after_of_fail hmove
  rw [run_append, run_cons]
  apply run_stage_of_failed hfailed
  intro other hother force notify hreset
  have htick : other.op.ticks = true := hticks other (by simp [hother])
  rw [hreset] at htick
  cases htick

end State

end QuorumNode.Sync
