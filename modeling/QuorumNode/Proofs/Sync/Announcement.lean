/-
A new block is announced twice, as a header and as the tip, and the two announcements may
come in either order.  Each of them asks whether the best header is reached, the first one
with half of the news.  It cannot say yes unless the second one would say so too, so until
the best header is reached the order leaves no trace.
-/
import QuorumNode.Proofs.Sync.Evidence
import QuorumNode.Proofs.Sync.Replay

namespace QuorumNode.Sync

namespace State

/-- The state once `block` is known to be both the best header and the tip. -/
def informed (s : State) (now : Int) (block : BlockRef) (initialDownload : Bool) : State :=
  { s with
    bumpedAt := if s.stage = .blockchain then now else s.bumpedAt
    reachedBest := s.reachedBest ||
      (!s.stage.terminal && !initialDownload && s.heights.within block.height)
    tipMovedAt := now
    bestHeader := some block
    tip := some block }

section

variable {cfg : Settings} {s : State} {now : Int} {block : BlockRef} {initialDownload : Bool}

/-! One announcement -/

/-- An announcement that starts nothing again is noted, and it is progress of the blockchain
stage. -/
theorem outcome_of_blockchainMove {call : Call} (hmove : s.move cfg call = s.blockchainMove) :
    s.outcome cfg call =
      quiet { s.note cfg call with
        bumpedAt := if s.stage = .blockchain then call.now else s.bumpedAt } := by
  rw [outcome_eq_act, hmove, blockchainMove]
  by_cases hstage : s.stage = .blockchain
  · rw [if_pos hstage, if_pos hstage]
    rfl
  · rw [if_neg hstage, if_neg hstage]
    rfl

theorem outcome_headerTip (peers : List Peer) :
    s.outcome cfg ⟨now, peers, .headerTip block initialDownload⟩ =
      quiet { s with
        bumpedAt := if s.stage = .blockchain then now else s.bumpedAt
        reachedBest := s.reachedBest || (!s.stage.terminal && !initialDownload &&
          atBest { s with bestHeader := some block })
        bestHeader := some block } := by
  rw [outcome_of_blockchainMove rfl, note, notedReached, drops, Bool.not_false, Bool.and_true]
  rfl

theorem outcome_blockTip {peers : List Peer}
    (hrestarts : s.restarts cfg ⟨now, peers, .blockTip block initialDownload⟩ = false) :
    s.outcome cfg ⟨now, peers, .blockTip block initialDownload⟩ =
      quiet { s with
        bumpedAt := if s.stage = .blockchain then now else s.bumpedAt
        reachedBest := s.reachedBest || (!s.stage.terminal && !initialDownload &&
          atBest { s with tip := some block })
        tipMovedAt := now
        tip := some block } := by
  have hmove : s.move cfg ⟨now, peers, .blockTip block initialDownload⟩ = s.blockchainMove := by
    rw [move, hrestarts, if_neg Bool.false_ne_true]
  rw [outcome_of_blockchainMove hmove, note, notedReached, drops, Bool.not_false, Bool.and_true]
  rfl

/-! What half of the news can say -/

theorem atBest_of_informed (s : State) (block : BlockRef) :
    atBest { s with bestHeader := some block, tip := some block } =
      s.heights.within block.height := by
  simp [atBest, tipMatches]

theorem within_of_header (hbest : atBest { s with bestHeader := some block } = true) :
    s.heights.within block.height = true := by
  obtain ⟨tip, best, -, hblock, -, hheights⟩ := atBest_eq_true_iff.mp hbest
  cases hblock
  simpa [Heights.within] using hheights

theorem within_of_tip
    (hheight : ∀ best, s.bestHeader = some best → best.hash = block.hash →
      best.height = block.height)
    (hbest : atBest { s with tip := some block } = true) :
    s.heights.within block.height = true := by
  obtain ⟨tip, best, htip, hknown, hhash, hheights⟩ := atBest_eq_true_iff.mp hbest
  cases htip
  rw [← hheight best hknown hhash.symm]
  simpa [Heights.within] using hheights

/-! Both announcements -/

/-- Whatever the first announcement says with half of the news, the second one makes nothing
of it. -/
theorem informed_eq_of_half {half : Bool}
    (hhalf : half = true → s.heights.within block.height = true) :
    s.informed now block initialDownload =
      { s with
        bumpedAt := if s.stage = .blockchain then now
          else if s.stage = .blockchain then now else s.bumpedAt
        reachedBest := s.reachedBest || (!s.stage.terminal && !initialDownload && half) ||
          (!s.stage.terminal && !initialDownload &&
            atBest { s with bestHeader := some block, tip := some block })
        tipMovedAt := now
        bestHeader := some block
        tip := some block } := by
  have hbumped : (if s.stage = .blockchain then now
      else if s.stage = .blockchain then now else s.bumpedAt) =
        if s.stage = .blockchain then now else s.bumpedAt := by
    split <;> rfl
  rw [informed, atBest_of_informed, hbumped]
  cases half with
  | false => rw [Bool.and_false, Bool.or_false]
  | true => rw [hhalf rfl, Bool.or_assoc, Bool.or_self]

/-- A tip that is the header just announced starts nothing again. -/
theorem outcome_blockTip_of_header (peers more : List Peer) :
    (s.after cfg ⟨now, peers, .headerTip block initialDownload⟩).outcome cfg
        ⟨now, more, .blockTip block initialDownload⟩ =
      (s.informed now block initialDownload).quiet := by
  rw [after, outcome_headerTip, informed_eq_of_half within_of_header]
  exact outcome_blockTip (by simp [quiet, restarts])

theorem restarts_blockTip_eq_false {call : Call} (hcall : call.op = .blockTip block initialDownload)
    (hopen : s.reachedBest = false ∨ s.stage.terminal = true) : s.restarts cfg call = false := by
  rcases hopen with hreached | hterminal <;> simp [restarts, *]

/-- As long as the best header is not reached, a header may come after its tip as well. -/
theorem outcome_headerTip_of_tip (peers more : List Peer)
    (hopen : s.reachedBest = false ∨ s.stage.terminal = true)
    (hheight : ∀ best, s.bestHeader = some best → best.hash = block.hash →
      best.height = block.height) :
    (s.after cfg ⟨now, peers, .blockTip block initialDownload⟩).outcome cfg
        ⟨now, more, .headerTip block initialDownload⟩ =
      (s.informed now block initialDownload).quiet := by
  rw [after, outcome_blockTip (restarts_blockTip_eq_false rfl hopen),
    informed_eq_of_half (within_of_tip hheight)]
  exact outcome_headerTip more

/-- Two calls that send nothing out. -/
theorem run_of_quiet {first last : Call} {t u : State} (hfirst : s.outcome cfg first = t.quiet)
    (hlast : (s.after cfg first).outcome cfg last = u.quiet) :
    s.run cfg [first, last] = u ∧ s.events cfg [first, last] = [] ∧
      s.requests cfg [first, last] = [] := by
  refine ⟨congrArg Outcome.state hlast, ?_, ?_⟩
  · rw [events_cons, events_cons, hfirst, hlast]
    rfl
  · rw [requests_cons, requests_cons, hfirst, hlast]
    rfl

end

end State

open State in
/-- Until the best header is reached it does not matter whether a block is announced as a
header or as the tip first, unless its hash is also that of a best header of another height.
Both orders lead to one state, and tell and ask nothing; and while the sync is on its way and
the initial download is over, the best header is reached then if and only if no peer is known
to be further. -/
theorem announcements_commute (cfg : Settings) (s : State) (now : Int) (block : BlockRef)
    (initialDownload : Bool) (peers more : List Peer)
    (hopen : s.reachedBest = false ∨ s.stage = .failed ∨ s.stage = .finished)
    (hheight : ∀ best, s.bestHeader = some best → best.hash = block.hash →
      best.height = block.height) :
    let header : Call := ⟨now, peers, .headerTip block initialDownload⟩
    let tip : Call := ⟨now, more, .blockTip block initialDownload⟩
    let t := s.run cfg [header, tip]
    s.run cfg [tip, header] = t ∧
    (s.events cfg [header, tip] = [] ∧ s.requests cfg [header, tip] = []) ∧
    (s.events cfg [tip, header] = [] ∧ s.requests cfg [tip, header] = []) ∧
    (s.stage ≠ .failed → s.stage ≠ .finished → initialDownload = false →
      (t.reachedBest = true ↔ ∀ entry ∈ t.heights, entry.2 ≤ block.height)) := by
  intro header tip t
  have hterminal : s.reachedBest = false ∨ s.stage.terminal = true := by
    refine hopen.imp_right ?_
    rintro (hfailed | hfinished)
    · rw [hfailed]
      rfl
    · rw [hfinished]
      rfl
  obtain ⟨ht, hevents, hrequests⟩ : t = s.informed now block initialDownload ∧ _ :=
    run_of_quiet (outcome_headerTip peers) (outcome_blockTip_of_header peers more)
  obtain ⟨ht', hevents', hrequests'⟩ :
      s.run cfg [tip, header] = s.informed now block initialDownload ∧ _ :=
    run_of_quiet (outcome_blockTip (restarts_blockTip_eq_false rfl hterminal))
      (outcome_headerTip_of_tip more peers hterminal hheight)
  refine ⟨ht'.trans ht.symm, ⟨hevents, hrequests⟩, ⟨hevents', hrequests'⟩, ?_⟩
  intro hunfailed hunfinished hdownload
  have hrunning := s.stage.terminal_eq_false_iff.mpr ⟨hunfailed, hunfinished⟩
  have hreached : s.reachedBest = false := by
    rcases hopen with hreached | hfailed | hfinished
    · exact hreached
    · exact absurd hfailed hunfailed
    · exact absurd hfinished hunfinished
  rw [ht, informed, hreached, hrunning, hdownload]
  simp [Heights.within]

/-- A tip that is announced first finds its header known and reaches it; a header that is
announced first is known already and leaves that to the tip. -/
theorem announcements_commute_known_header :
    let s := (State.start 0).run {}
      [⟨1, [], .headerTip ⟨5, ⟨7⟩⟩ false⟩, ⟨2, [], .blockTip ⟨4, ⟨3⟩⟩ false⟩,
        ⟨3, ["p"], .receive "p" (.bestHeight 5)⟩, ⟨4, ["p"], .advance⟩]
    let header : Call := ⟨9, ["p"], .headerTip ⟨5, ⟨7⟩⟩ false⟩
    let tip : Call := ⟨9, [], .blockTip ⟨5, ⟨7⟩⟩ false⟩
    (s.reachedBest = false ∧ s.stage = .governance) ∧
      (∀ best, s.bestHeader = some best → best.hash = ⟨7⟩ → best.height = 5) ∧
      (s.after {} header).reachedBest ≠ (s.after {} tip).reachedBest ∧
      s.run {} [tip, header] = s.run {} [header, tip] ∧
      (s.run {} [header, tip]).reachedBest = true := by
  intro s header tip
  have hreached : s.reachedBest = false := by decide
  have hstage : s.stage = .governance := by decide
  have hheight : ∀ best, s.bestHeader = some best → best.hash = ⟨7⟩ → best.height = 5 := by
    intro best hbest _
    have hknown : s.bestHeader = some ⟨5, ⟨7⟩⟩ := by decide
    rw [hknown] at hbest
    cases hbest
    rfl
  obtain ⟨hsame, -, -, hbest⟩ := announcements_commute {} s 9 ⟨5, ⟨7⟩⟩ false ["p"] []
    (Or.inl hreached) hheight
  refine ⟨⟨hreached, hstage⟩, hheight, by decide, hsame, ?_⟩
  exact (hbest (by rw [hstage]; decide) (by rw [hstage]; decide) rfl).mpr (by decide)

end QuorumNode.Sync
