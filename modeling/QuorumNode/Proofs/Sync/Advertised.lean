/-
The heights on record are what the peers said last, as far as no restart and no
tick without the peer came after it.
-/
import Mathlib.Data.List.Induction
import QuorumNode.Proofs.Sync.Decision

namespace QuorumNode.Sync

namespace Heights

/-- No peer is on record twice. -/
def Distinct (heights : Heights) : Prop :=
  heights.Pairwise fun first second => first.1 ≠ second.1

variable {heights : Heights} {peer : Peer} {height : Nat}

theorem distinct_nil : Distinct [] := List.Pairwise.nil

theorem Distinct.record (hdistinct : heights.Distinct) (peer : Peer) (height : Nat) :
    (heights.record peer height).Distinct := by
  apply List.pairwise_cons.mpr
  constructor
  · intro entry hentry
    have hother : entry.1 ≠ peer := of_decide_eq_true (List.mem_filter.mp hentry).2
    exact hother.symm
  · exact hdistinct.filter _

theorem Distinct.keep (hdistinct : heights.Distinct) (peers : List Peer) :
    (heights.keep peers).Distinct :=
  hdistinct.filter _

theorem mem_of_height? (hheight : heights.height? peer = some height) :
    (peer, height) ∈ heights := by
  obtain ⟨entry, hfound, hentry⟩ := Option.map_eq_some_iff.mp hheight
  have hpeer := List.find?_some hfound
  rw [decide_eq_true_eq] at hpeer
  rw [← hpeer, ← hentry]
  exact List.mem_of_find?_eq_some hfound

theorem Distinct.height?_eq_some_iff (hdistinct : heights.Distinct) :
    heights.height? peer = some height ↔ (peer, height) ∈ heights := by
  refine ⟨mem_of_height?, ?_⟩
  induction heights with
  | nil => simp
  | cons entry rest ih =>
      obtain ⟨hentry, hrest⟩ := List.pairwise_cons.mp hdistinct
      intro hmem
      rcases List.mem_cons.mp hmem with hself | hlater
      · simp [height?, ← hself]
      · have hother : entry.1 ≠ peer := hentry (peer, height) hlater
        have hfound := ih hrest hlater
        rwa [height?, List.find?_cons_of_neg (by simpa using hother)]

theorem height?_keep (heights : Heights) (peers : List Peer) (peer : Peer) :
    (heights.keep peers).height? peer =
      if peer ∈ peers then heights.height? peer else none := by
  simp only [height?, keep, List.find?_filter, decide_eq_true_eq]
  by_cases hconnected : peer ∈ peers
  · rw [if_pos hconnected]
    congr 2
    funext entry
    by_cases hpeer : entry.1 = peer
    · simp [hpeer, hconnected]
    · simp [hpeer]
  · rw [if_neg hconnected, Option.map_eq_none_iff, List.find?_eq_none]
    intro entry _ hentry
    obtain ⟨hkept, hpeer⟩ := of_decide_eq_true hentry
    exact hconnected (hpeer ▸ hkept)

end Heights

/-- A step that leaves alone what is on record of a peer: the peer does not speak
of a height, nothing restarts, and no tick finds the peer gone. -/
structure Step.Spares (cfg : Settings) (peer : Peer) (x : Step) : Prop where
  unsaid : ∀ height, x.call.op ≠ .receive peer (.bestHeight height)
  unbroken : x.restarts cfg = false
  connected : x.call.op.ticks = true → peer ∈ x.call.peers

/-- The last height that the peer spoke of, if nothing has wiped it out since. -/
def Advertised (cfg : Settings) (began : Int) (calls : List Call) (peer : Peer)
    (height : Nat) : Prop :=
  ∃ earlier x rest, calls = earlier ++ x :: rest ∧
    x.op = .receive peer (.bestHeight height) ∧
    ∀ y ∈ ((State.start began).run cfg (earlier ++ [x])).trace cfg rest, y.Spares cfg peer

theorem advertised_nil {cfg : Settings} {began : Int} {peer : Peer} {height : Nat} :
    ¬Advertised cfg began [] peer height := by
  rintro ⟨earlier, x, rest, hcalls, -, -⟩
  cases earlier <;> cases hcalls

theorem advertised_concat {cfg : Settings} {began : Int} {calls : List Call} {call : Call}
    {peer : Peer} {height : Nat} :
    Advertised cfg began (calls ++ [call]) peer height ↔
      call.op = .receive peer (.bestHeight height) ∨
        Advertised cfg began calls peer height ∧
          Step.Spares cfg peer ⟨(State.start began).run cfg calls, call⟩ := by
  constructor
  · rintro ⟨earlier, x, rest, hcalls, hsaid, hspared⟩
    -- The message is the last call itself, or the last call is one of those after it.
    induction rest using List.reverseRecOn with
    | nil =>
        obtain ⟨-, hlast⟩ := List.append_inj' hcalls rfl
        obtain ⟨rfl, -⟩ := List.cons.inj hlast
        exact Or.inl hsaid
    | append_singleton rest last _ =>
        rw [← List.cons_append, ← List.append_assoc] at hcalls
        obtain ⟨rfl, hlast⟩ := List.append_inj' hcalls rfl
        obtain ⟨rfl, -⟩ := List.cons.inj hlast
        obtain ⟨hbefore, hcall⟩ := State.forall_mem_trace_concat.mp hspared
        rw [← State.run_append, List.append_assoc] at hcall
        exact Or.inr ⟨⟨earlier, x, rest, rfl, hsaid, hbefore⟩, hcall⟩
  · rintro (hsaid | ⟨⟨earlier, x, rest, rfl, hsaid, hspared⟩, hcall⟩)
    · exact ⟨calls, call, [], rfl, hsaid, by simp⟩
    · refine ⟨earlier, x, rest ++ [call], by simp, hsaid, ?_⟩
      refine State.forall_mem_trace_concat.mpr ⟨hspared, ?_⟩
      rw [← State.run_append, List.append_assoc]
      exact hcall

namespace State

variable {cfg : Settings} {s : State} {call : Call} {peer : Peer} {height : Nat}

theorem after_heights_of_restarts (hrestarts : s.restarts cfg call = true) :
    (s.after cfg call).heights = [] := by
  obtain ⟨notify, hafter⟩ := after_of_restarts hrestarts
  rw [hafter]
  rfl

theorem notedHeights_distinct (hdistinct : s.heights.Distinct) (call : Call) :
    (s.notedHeights call).Distinct := by
  obtain ⟨now, peers, op⟩ := call
  cases op with
  | receive sender message =>
      cases message with
      | bestHeight height => exact hdistinct.record sender height
      | _ => exact hdistinct
  | tick | maintain => exact hdistinct.keep peers
  | _ => exact hdistinct

theorem after_heights_distinct (s : State) (call : Call) (hdistinct : s.heights.Distinct) :
    (s.after cfg call).heights.Distinct := by
  cases hrestarts : s.restarts cfg call with
  | true =>
      rw [after_heights_of_restarts hrestarts]
      exact Heights.distinct_nil
  | false =>
      rw [(after_of_not_restarts hrestarts).2.1]
      exact notedHeights_distinct hdistinct call

theorem run_heights_distinct (cfg : Settings) (began : Int) (calls : List Call) :
    ((start began).run cfg calls).heights.Distinct :=
  run_induction (P := fun s => s.heights.Distinct) Heights.distinct_nil after_heights_distinct
    calls

theorem notedHeights_of_said (hsaid : call.op = .receive peer (.bestHeight height)) :
    s.notedHeights call = s.heights.record peer height := by
  simp only [notedHeights, hsaid]

/-- What a call leaves on record of a peer who says nothing of a height in it. -/
theorem height?_notedHeights_of_unsaid
    (hunsaid : ∀ height, call.op ≠ .receive peer (.bestHeight height)) :
    (s.notedHeights call).height? peer =
      if call.op.ticks = true → peer ∈ call.peers then s.heights.height? peer else none := by
  obtain ⟨now, peers, op⟩ := call
  cases op with
  | receive sender message =>
      cases message with
      | bestHeight height =>
          have hother : peer ≠ sender := by
            rintro rfl
            exact hunsaid height rfl
          rw [if_pos (fun hticks => nomatch hticks)]
          exact Heights.height?_record_of_ne hother s.heights height
      | _ => rfl
  | tick | maintain =>
      simp only [Operation.ticks, true_implies]
      exact Heights.height?_keep s.heights peers peer
  | _ => rfl

/-- What is on record of a peer after a call is what the peer has just said, or it
was there and the call left it alone. -/
theorem height?_after_eq_some_iff :
    (s.after cfg call).heights.height? peer = some height ↔
      call.op = .receive peer (.bestHeight height) ∨
        s.heights.height? peer = some height ∧ Step.Spares cfg peer ⟨s, call⟩ := by
  cases hrestarts : s.restarts cfg call with
  | true =>
      rw [after_heights_of_restarts hrestarts]
      constructor
      · intro hempty
        cases hempty
      · rintro (hsaid | ⟨-, hspared⟩)
        · rw [restarts, hsaid] at hrestarts
          cases hrestarts
        · have hunbroken : s.restarts cfg call = false := hspared.unbroken
          rw [hunbroken] at hrestarts
          cases hrestarts
  | false =>
      rw [(after_of_not_restarts hrestarts).2.1]
      by_cases hspoke : ∃ said, call.op = .receive peer (.bestHeight said)
      · obtain ⟨said, hsaid⟩ := hspoke
        rw [notedHeights_of_said hsaid, Heights.height?_record_self, hsaid]
        constructor
        · intro hsame
          rw [Option.some.inj hsame]
          exact Or.inl rfl
        · rintro (hsame | ⟨-, hspared⟩)
          · cases hsame
            rfl
          · exact absurd hsaid (hspared.unsaid said)
      · have hunsaid : ∀ said, call.op ≠ .receive peer (.bestHeight said) :=
          fun said hsaid => hspoke ⟨said, hsaid⟩
        rw [height?_notedHeights_of_unsaid hunsaid]
        constructor
        · intro hheight
          split at hheight
          · next hconnected => exact Or.inr ⟨hheight, ⟨hunsaid, hrestarts, hconnected⟩⟩
          · cases hheight
        · rintro (hsaid | ⟨hheight, hspared⟩)
          · exact absurd hsaid (hunsaid height)
          · rw [if_pos hspared.connected, hheight]

theorem height?_run_eq_some_iff (cfg : Settings) (began : Int) (calls : List Call)
    (peer : Peer) (height : Nat) :
    ((start began).run cfg calls).heights.height? peer = some height ↔
      Advertised cfg began calls peer height := by
  induction calls using List.reverseRecOn generalizing height with
  | nil =>
      constructor
      · intro hempty
        cases hempty
      · intro hadvertised
        exact absurd hadvertised advertised_nil
  | append_singleton calls call ih =>
      rw [run_concat, height?_after_eq_some_iff, advertised_concat, ih]

end State

end QuorumNode.Sync
