/-
Why a reconfiguration that has to wait is never put off for long.  All parameter sets of
a kind, whatever their sizes, share one mining window, and the windows of all kinds
together leave out every thirtieth height.
-/
import Mathlib.Data.Nat.Find
import QuorumNode.Chain.Params
import QuorumNode.Proofs.Quorum.Upkeep

namespace QuorumNode.Quorum

/-- The interval of a kind, and the first and the last offset of its mining window. -/
def Kind.schedule : Kind → Nat × Nat × Nat
  | .llmq50_60 | .llmq5_60 => (30, 10, 18)
  | .llmq400_60 => (360, 20, 28)
  | .llmq400_85 => (720, 20, 48)

namespace Params

/-- The mining window is the one of the kind. -/
def OnSchedule (p : Params) : Prop :=
  (p.interval, p.windowFirst, p.windowLast) = p.kind.schedule

instance (p : Params) : Decidable p.OnSchedule :=
  inferInstanceAs (Decidable (_ = _))

theorem OnSchedule.mining_eq {p q : Params} (hp : p.OnSchedule) (hq : q.OnSchedule)
    (hkind : q.kind = p.kind) : q.mining = p.mining := by
  have hsame : (q.interval, q.windowFirst, q.windowLast) =
      (p.interval, p.windowFirst, p.windowLast) := by
    rw [OnSchedule] at hp hq
    rw [hp, hq, hkind]
  obtain ⟨hinterval, hfirst, hlast⟩ :
      q.interval = p.interval ∧ q.windowFirst = p.windowFirst ∧ q.windowLast = p.windowLast := by
    simpa using hsame
  funext height
  rw [mining, mining, hinterval, hfirst, hlast]

/-- Offset 19 lies after the windows that recur every 30 blocks and is never met by the
longer ones, which end at offset 28 of an interval or at 18 of the one after it. -/
theorem OnSchedule.not_inWindow {p : Params} (hp : p.OnSchedule) {height : Nat}
    (hheight : height % 30 = 19) : ¬p.InWindow height := by
  rintro ⟨-, hfirst, hlast⟩
  cases hkind : p.kind with
  | llmq50_60 | llmq5_60 | llmq400_60 | llmq400_85 =>
      rw [OnSchedule, hkind, Kind.schedule, Prod.mk.injEq, Prod.mk.injEq] at hp
      obtain ⟨hinterval, hwindowFirst, hwindowLast⟩ := hp
      rw [hinterval, hwindowFirst] at hfirst
      rw [hinterval, hwindowLast] at hlast
      omega

end Params

theorem Preset.onSchedule_of_mem_all : ∀ p ∈ Preset.all, p.OnSchedule := by decide

theorem onSchedule_ofNetwork (network : Chain.Network) :
    ∀ p ∈ (Chain.Params.ofNetwork network).quorums.entries, p.OnSchedule := by
  cases network <;> decide

namespace Table

variable {table : Table}

theorem exists_free (hschedule : ∀ p ∈ table.entries, p.OnSchedule) (height : Nat) :
    ∃ i < 30, ∀ p ∈ table.entries, ¬p.InWindow (height + i) := by
  refine ⟨(49 - height % 30) % 30, by omega, ?_⟩
  intro p hp
  exact (hschedule p hp).not_inWindow (by omega)

theorem mining_eq_false_iff {height : Nat} :
    table.mining height = false ↔ ∀ p ∈ table.entries, ¬p.InWindow height := by
  rw [← Bool.not_eq_true, mining_iff_inWindow]
  simp

/-- The first of the heights on which no quorum is in its window. -/
theorem exists_first_free (hschedule : ∀ p ∈ table.entries, p.OnSchedule) (height : Nat) :
    ∃ first < 30, (∀ i < first, ∃ p ∈ table.entries, p.InWindow (height + i)) ∧
      ∀ p ∈ table.entries, ¬p.InWindow (height + first) := by
  obtain ⟨i, hi, hfree⟩ := exists_free hschedule height
  have hexists : ∃ i, table.mining (height + i) = false := ⟨i, mining_eq_false_iff.mpr hfree⟩
  refine ⟨Nat.find hexists, ?_, ?_, mining_eq_false_iff.mp (Nat.find_spec hexists)⟩
  · exact Nat.lt_of_le_of_lt (Nat.find_min' hexists (mining_eq_false_iff.mpr hfree)) hi
  · intro j hj
    have hopen := Nat.find_min hexists hj
    rw [Bool.not_eq_false, mining_iff_inWindow] at hopen
    exact hopen

end Table

/-- One attempt with the same inputs at each of `n` heights from `height` on. -/
def attemptsFrom (count : Nat) (lowParams : Bool) (height n : Nat) : List Attempt :=
  (List.range' height n).map fun h => ⟨h, count, lowParams⟩

theorem length_attemptsFrom (count : Nat) (lowParams : Bool) (height n : Nat) :
    (attemptsFrom count lowParams height n).length = n := by
  rw [attemptsFrom, List.length_map, List.length_range']

theorem exists_of_mem_attemptsFrom {count height n : Nat} {lowParams : Bool} {a : Attempt}
    (ha : a ∈ attemptsFrom count lowParams height n) :
    ∃ i < n, a = ⟨height + i, count, lowParams⟩ := by
  obtain ⟨h, hrange, rfl⟩ := List.mem_map.mp ha
  obtain ⟨i, hi, rfl⟩ := List.mem_range'.mp hrange
  exact ⟨i, hi, by rw [Nat.one_mul]⟩

/-- The heights up to a certain one, that height, and those after it. -/
theorem attemptsFrom_split (count : Nat) (lowParams : Bool) (height first n : Nat) :
    attemptsFrom count lowParams height (first + (1 + n)) =
      attemptsFrom count lowParams height first ++ ⟨height + first, count, lowParams⟩ ::
        attemptsFrom count lowParams (height + first + 1) n := by
  rw [attemptsFrom, ← List.range'_append_1, List.map_append, Nat.add_comm 1 n,
    List.range'_succ, List.map_cons]
  rfl

namespace Registry

/-- What the attempts are answered, in order. -/
def answers : Registry → List Attempt → List Verdict
  | _, [] => []
  | r, a :: rest => r.answer a :: (r.after a).answers rest

variable {r : Registry}

theorem answers_append (r : Registry) (first last : List Attempt) :
    r.answers (first ++ last) = r.answers first ++ (r.run first).answers last := by
  induction first generalizing r with
  | nil => rfl
  | cons a rest ih =>
      rw [List.cons_append, answers, ih, answers, List.cons_append]
      rfl

/-- Attempts that are all turned down for one reason leave the registry as it was. -/
theorem answers_of_skipped {verdict : Verdict} (hskips : verdict.isApplied = false)
    {attempts : List Attempt} (hanswer : ∀ a ∈ attempts, r.answer a = verdict) :
    r.answers attempts = List.replicate attempts.length verdict ∧ r.run attempts = r := by
  induction attempts with
  | nil => exact ⟨rfl, rfl⟩
  | cons a rest ih =>
      obtain ⟨ha, hrest⟩ := List.forall_mem_cons.mp hanswer
      have hafter : r.after a = r := after_of_not_isApplied (by rw [ha]; exact hskips)
      obtain ⟨hanswers, hrun⟩ := ih hrest
      constructor
      · rw [answers, ha, hafter, hanswers, List.length_cons, List.replicate_succ]
      · change (r.after a).run rest = r
        rw [hafter, hrun]

theorem answer_of_mining {a : Attempt} (hheight : r.last.height < a.height)
    (hnew : ¬(a.count = r.last.count ∧ a.lowParams = r.last.lowParams))
    (hmining : ∃ p ∈ r.table.entries, p.InWindow a.height) : r.answer a = .miningPhase := by
  rw [answer, verdict, if_neg (Nat.not_le.mpr hheight), if_neg hnew,
    if_pos ((r.table.mining_iff_inWindow _).mpr hmining)]

theorem answer_of_same {a : Attempt} (hheight : r.last.height < a.height)
    (hsame : a.count = r.last.count ∧ a.lowParams = r.last.lowParams) :
    r.answer a = .unchanged := by
  rw [answer, verdict, if_neg (Nat.not_le.mpr hheight), if_pos hsame]

/-- Attempts one block apart: turned down as long as a window is open, applied at the
first height that is free, and without effect from there on. -/
theorem answers_attemptsFrom {count height first : Nat} {lowParams : Bool} (n : Nat)
    (hheight : r.last.height < height)
    (hnew : ¬(count = r.last.count ∧ lowParams = r.last.lowParams))
    (hmining : ∀ i < first, ∃ p ∈ r.table.entries, p.InWindow (height + i))
    (hfree : ∀ p ∈ r.table.entries, ¬p.InWindow (height + first)) :
    r.answers (attemptsFrom count lowParams height (first + (1 + n))) =
      List.replicate first .miningPhase ++
        .applied (Bucket.ofCount count) :: List.replicate n .unchanged := by
  have hwaits : ∀ a ∈ attemptsFrom count lowParams height first, r.answer a = .miningPhase := by
    intro a ha
    obtain ⟨i, hi, rfl⟩ := exists_of_mem_attemptsFrom ha
    refine answer_of_mining ?_ hnew (hmining i hi)
    exact Nat.lt_of_lt_of_le hheight (Nat.le_add_right height i)
  let a : Attempt := ⟨height + first, count, lowParams⟩
  have happlied : (r.answer a).isApplied = true := by
    refine (r.isApplied_answer_iff a).mpr ⟨?_, hnew, hfree⟩
    exact Nat.lt_of_lt_of_le hheight (Nat.le_add_right height first)
  have hlast : (r.after a).last = a := by rw [after_of_isApplied happlied]
  have hrests : ∀ b ∈ attemptsFrom count lowParams (height + first + 1) n,
      (r.after a).answer b = .unchanged := by
    intro b hb
    obtain ⟨i, -, rfl⟩ := exists_of_mem_attemptsFrom hb
    refine answer_of_same ?_ ?_
    · rw [hlast]
      change height + first < height + first + 1 + i
      omega
    · rw [hlast]
      exact ⟨rfl, rfl⟩
  obtain ⟨hbefore, hrun⟩ := answers_of_skipped rfl hwaits
  obtain ⟨hafter, -⟩ := answers_of_skipped rfl hrests
  rw [length_attemptsFrom] at hbefore hafter
  rw [attemptsFrom_split, answers_append, hbefore, hrun, answers, answer_of_isApplied happlied,
    hafter]

theorem onSchedule_run (network : Chain.Network) (attempts : List Attempt) :
    ∀ p ∈ ((ofTable (Chain.Params.ofNetwork network).quorums).run attempts).table.entries,
      p.OnSchedule := by
  induction attempts using List.reverseRecOn with
  | nil => exact onSchedule_ofNetwork network
  | append_singleton attempts a ih =>
      rw [run_concat]
      exact forall_entries_after Preset.onSchedule_of_mem_all ih a

/-- A kind that can be looked up keeps its mining window through an attempt. -/
theorem mining_after (hschedule : ∀ p ∈ r.table.entries, p.OnSchedule) (a : Attempt) {kind : Kind}
    {p : Params} (hget : r.table.get? kind = some p) :
    ∃ q, (r.after a).table.get? kind = some q ∧ q.mining = p.mining := by
  have hcontains := contains_after (Table.contains_eq_true_iff.mpr ⟨p, hget⟩) a
  obtain ⟨q, hq⟩ := Table.contains_eq_true_iff.mp hcontains
  have hafter := forall_entries_after Preset.onSchedule_of_mem_all hschedule a
  refine ⟨q, hq, ?_⟩
  apply (hschedule p (Table.mem_of_get? hget)).mining_eq (hafter q (Table.mem_of_get? hq))
  rw [Table.kind_of_get? hq, Table.kind_of_get? hget]

end Registry

open Registry in
/-- On every network and after every run of attempts, one of any thirty heights in a row is
free of mining windows, and attempts move no window.  So a reconfiguration that is new
and is tried again at each block is applied within thirty blocks, at the first height
that is free, and once only. -/
theorem applied_within_thirty_blocks (network : Chain.Network) (attempts : List Attempt) :
    let r := (ofTable (Chain.Params.ofNetwork network).quorums).run attempts
    (∀ height, ∃ i < 30, ∀ p ∈ r.table.entries, ¬p.InWindow (height + i)) ∧
    (∀ (a : Attempt) kind p, r.table.get? kind = some p →
      ∃ q, (r.after a).table.get? kind = some q ∧ q.mining = p.mining) ∧
    ∀ count height lowParams, r.last.height < height →
      (count, lowParams) ≠ (r.last.count, r.last.lowParams) →
      ∃ first < 30,
        (∀ i < first, ∃ p ∈ r.table.entries, p.InWindow (height + i)) ∧
        (∀ p ∈ r.table.entries, ¬p.InWindow (height + first)) ∧
        r.answers (attemptsFrom count lowParams height 30) =
          List.replicate first .miningPhase ++
            .applied (Bucket.ofCount count) :: List.replicate (29 - first) .unchanged := by
  intro r
  have hschedule : ∀ p ∈ r.table.entries, p.OnSchedule := onSchedule_run network attempts
  refine ⟨Table.exists_free hschedule, ?_, ?_⟩
  · intro a kind p hget
    exact mining_after hschedule a hget
  · intro count height lowParams hheight hnew
    obtain ⟨first, hfirst, hmining, hfree⟩ := Table.exists_first_free hschedule height
    refine ⟨first, hfirst, hmining, hfree, ?_⟩
    rw [ne_eq, Prod.mk.injEq] at hnew
    have hanswers := answers_attemptsFrom (29 - first) hheight hnew hmining hfree
    have hlength : first + (1 + (29 - first)) = 30 := by omega
    rwa [hlength] at hanswers

/-- The longest wait there is: from height 20 on a window is open for 29 blocks. -/
theorem applied_within_thirty_blocks_main :
    let r := Registry.ofTable (Chain.Params.ofNetwork .main).quorums
    r.last.height < 20 ∧ (700, false) ≠ (r.last.count, r.last.lowParams) ∧
      r.answers (attemptsFrom 700 false 20 30) =
        List.replicate 29 .miningPhase ++ [.applied .large] := by
  intro r
  have hheight : r.last.height < 20 := by decide
  have hnew : (700, false) ≠ (r.last.count, r.last.lowParams) := by decide
  obtain ⟨first, hfirst, -, hfree, hanswers⟩ :=
    (applied_within_thirty_blocks .main []).2.2 700 20 false hheight hnew
  -- Until height 49 the quorums with the longest interval are in their window.
  have hlargest : Preset.llmq20_85 ∈ r.table.entries := by decide
  have hclosed := hfree Preset.llmq20_85 hlargest
  have hlast : first = 29 := by
    by_contra hearlier
    apply hclosed
    change 720 ≠ 0 ∧ 20 ≤ (20 + first) % 720 ∧ (20 + first) % 720 ≤ 48
    omega
  rw [hlast] at hanswers
  exact ⟨hheight, hnew, hanswers⟩

end QuorumNode.Quorum
