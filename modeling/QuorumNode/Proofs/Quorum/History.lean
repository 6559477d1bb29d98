/-
The registry as a function of its history.  Whatever was attempted before, the
registry shows the last attempt that was applied and nothing of the others; its
table is the table it started from, overlaid once with the presets of one bucket.
-/
import Mathlib.Data.List.Induction
import QuorumNode.Proofs.Quorum.Lookup

namespace QuorumNode.Quorum

/-- The inputs of an attempt to reconfigure, applied or not. -/
abbrev Attempt := Applied

namespace Registry

def answer (r : Registry) (a : Attempt) : Verdict := r.verdict a.count a.height a.lowParams

def after (r : Registry) (a : Attempt) : Registry := r.reconfigure a.count a.height a.lowParams

/-- The registry after all of the attempts. -/
def run (r : Registry) (attempts : List Attempt) : Registry := attempts.foldl after r

/-- The attempts that are applied, in order. -/
def applied : Registry → List Attempt → List Attempt
  | _, [] => []
  | r, a :: rest =>
      if (r.answer a).isApplied then a :: applied (r.after a) rest else applied (r.after a) rest

theorem run_append (r : Registry) (first last : List Attempt) :
    r.run (first ++ last) = (r.run first).run last :=
  List.foldl_append

@[simp] theorem run_concat (r : Registry) (attempts : List Attempt) (a : Attempt) :
    r.run (attempts ++ [a]) = (r.run attempts).after a := by
  simp [run]

theorem applied_concat (r : Registry) (attempts : List Attempt) (a : Attempt) :
    r.applied (attempts ++ [a]) =
      r.applied attempts ++ if ((r.run attempts).answer a).isApplied then [a] else [] := by
  induction attempts generalizing r with
  | nil => rfl
  | cons first rest ih =>
      have hrun : r.run (first :: rest) = (r.after first).run rest := rfl
      rw [List.cons_append, applied, applied, ih, hrun]
      split <;> rfl

/-- The three guards of an attempt. -/
theorem isApplied_answer_iff (r : Registry) (a : Attempt) :
    (r.answer a).isApplied = true ↔
      r.last.height < a.height ∧
        ¬(a.count = r.last.count ∧ a.lowParams = r.last.lowParams) ∧
        ∀ p ∈ r.table.entries, ¬p.InWindow a.height := by
  have hmining := r.table.mining_iff_inWindow a.height
  unfold answer verdict
  by_cases hheight : a.height ≤ r.last.height
  · simp [hheight, Verdict.isApplied, Nat.not_lt.mpr hheight]
  · by_cases hsame : a.count = r.last.count ∧ a.lowParams = r.last.lowParams
    · simp [hheight, hsame, Verdict.isApplied]
    · by_cases hopen : r.table.mining a.height = true
      · obtain ⟨p, hp, hwindow⟩ := hmining.mp hopen
        rw [if_neg hheight, if_neg hsame, if_pos hopen]
        simp only [Verdict.isApplied, Bool.false_eq_true, false_iff]
        exact fun hclosed => hclosed.2.2 p hp hwindow
      · rw [if_neg hheight, if_neg hsame, if_neg hopen]
        simp only [Verdict.isApplied, true_iff]
        exact ⟨Nat.lt_of_not_le hheight, hsame,
          fun p hp hwindow => hopen (hmining.mpr ⟨p, hp, hwindow⟩)⟩

theorem answer_of_isApplied {r : Registry} {a : Attempt}
    (happlied : (r.answer a).isApplied = true) :
    r.answer a = .applied (Bucket.ofCount a.count) := by
  unfold answer verdict at happlied ⊢
  split at happlied
  · cases happlied
  split at happlied
  · cases happlied
  split at happlied
  · cases happlied
  next hheight hsame hopen => rw [if_neg hheight, if_neg hsame, if_neg hopen]

theorem after_of_isApplied {r : Registry} {a : Attempt}
    (happlied : (r.answer a).isApplied = true) :
    r.after a = ⟨r.table.overlay (Bucket.ofCount a.count), a, some (Bucket.ofCount a.count)⟩ := by
  have hanswer := answer_of_isApplied happlied
  rw [answer] at hanswer
  rw [after, reconfigure, hanswer]

theorem after_of_not_isApplied {r : Registry} {a : Attempt}
    (hskipped : (r.answer a).isApplied = false) : r.after a = r := by
  rw [answer] at hskipped
  unfold after reconfigure
  split
  · next hverdict =>
      rw [hverdict] at hskipped
      cases hskipped
  · rfl

/-- What the registry is once the attempts `done`, and no others, have been
applied to one that started from `table`. -/
structure Shows (table : Table) (done : List Attempt) (r : Registry) : Prop where
  last_eq : r.last = done.getLast?.getD ⟨0, 0, false⟩
  bucket_eq : r.bucket = done.getLast?.map fun a => Bucket.ofCount a.count
  table_eq : r.table = (r.bucket.map table.overlay).getD table
  ascending : done.Pairwise fun a b => a.height < b.height
  height_le : ∀ a ∈ done, a.height ≤ r.last.height

theorem shows_ofTable (table : Table) : (ofTable table).Shows table [] where
  last_eq := rfl
  bucket_eq := rfl
  table_eq := rfl
  ascending := List.Pairwise.nil
  height_le := by simp

theorem Shows.after {table : Table} {done : List Attempt} {r : Registry}
    (hshows : r.Shows table done) (a : Attempt) :
    (r.after a).Shows table (done ++ if (r.answer a).isApplied then [a] else []) := by
  cases happlied : (r.answer a).isApplied with
  | false =>
      rw [after_of_not_isApplied happlied]
      simpa using hshows
  | true =>
      obtain ⟨hheight, -, -⟩ := (r.isApplied_answer_iff a).mp happlied
      rw [after_of_isApplied happlied, if_pos rfl]
      refine ⟨by simp, by simp, ?_, ?_, ?_⟩
      · change r.table.overlay _ = table.overlay _
        rw [hshows.table_eq]
        cases r.bucket with
        | none => rfl
        | some first => exact table.overlay_overlay first _
      · rw [List.pairwise_append]
        refine ⟨hshows.ascending, List.pairwise_singleton _ a, ?_⟩
        intro b hb c hc
        rw [List.mem_singleton.mp hc]
        exact Nat.lt_of_le_of_lt (hshows.height_le b hb) hheight
      · intro b hb
        rcases List.mem_append.mp hb with hb | hb
        · exact Nat.le_of_lt (Nat.lt_of_le_of_lt (hshows.height_le b hb) hheight)
        · rw [List.mem_singleton.mp hb]

theorem shows_run (table : Table) (attempts : List Attempt) :
    ((ofTable table).run attempts).Shows table ((ofTable table).applied attempts) := by
  induction attempts using List.reverseRecOn with
  | nil => exact shows_ofTable table
  | append_singleton attempts a ih =>
      rw [run_concat, applied_concat]
      exact ih.after a

theorem Shows.table_of_bucket {table : Table} {done : List Attempt} {r : Registry}
    (hshows : r.Shows table done) {bucket : Bucket} (hbucket : r.bucket = some bucket) :
    r.table = table.overlay bucket := by
  rw [hshows.table_eq, hbucket]
  rfl

/-- The table depends on the population that was applied last, not on the road
there. -/
theorem Shows.table_unique {table : Table} {done others : List Attempt} {r other : Registry}
    (hshows : r.Shows table done) (hother : other.Shows table others)
    (hlast : others.getLast?.map Applied.count = done.getLast?.map Applied.count) :
    other.table = r.table := by
  have hbucket : other.bucket = r.bucket := by
    have hsame := congrArg (Option.map Bucket.ofCount) hlast
    rw [Option.map_map, Option.map_map] at hsame
    rw [hother.bucket_eq, hshows.bucket_eq]
    exact hsame
  rw [hother.table_eq, hshows.table_eq, hbucket]

end Registry

open Registry in
/-- A run of attempts is known by the attempts that were applied.  The last of
them is all that the registry shows: its population makes the bucket, and the presets
of the bucket, one for each managed kind, lie over the table from the start.  With the
table in force it decides which attempt is applied next, and the other attempts change
nothing. -/
theorem run_refines_applied (table : Table) (attempts : List Attempt) :
    let r := (ofTable table).run attempts
    let done := (ofTable table).applied attempts
    let last := done.getLast?.getD ⟨0, 0, false⟩
    r.last = last ∧
    r.bucket = done.getLast?.map (fun a => Bucket.ofCount a.count) ∧
    (∀ bucket, r.bucket = some bucket ↔ ∃ a, done.getLast? = some a ∧ bucket.Covers a.count) ∧
    (∀ bucket, r.bucket = some bucket →
      r.table = table.overlay bucket ∧
        bucket.presets.map Params.kind = managedKinds ∧
        (∀ p ∈ bucket.presets, r.table.get? p.kind = some p) ∧
        (∀ kind ∉ managedKinds, r.table.get? kind = table.get? kind) ∧
        ∀ kind, r.table.get? kind = (bucket.preset? kind).or (table.get? kind)) ∧
    (r.bucket = none → r.table = table) ∧
    (∀ next : Attempt,
      ((r.answer next).isApplied = true ↔
        last.height < next.height ∧
          (next.count, next.lowParams) ≠ (last.count, last.lowParams) ∧
          ∀ p ∈ r.table.entries, ¬p.InWindow next.height) ∧
      ((r.answer next).isApplied = true →
        r.answer next = .applied (Bucket.ofCount next.count) ∧ (r.after next).last = next) ∧
      ((r.answer next).isApplied = false → r.after next = r)) ∧
    done.Pairwise (fun a b => a.height < b.height) ∧
    ∀ others : List Attempt,
      ((ofTable table).applied others).getLast?.map Applied.count =
          done.getLast?.map Applied.count →
        ((ofTable table).run others).table = r.table := by
  intro r done last
  have hshows : r.Shows table done := shows_run table attempts
  refine ⟨hshows.last_eq, hshows.bucket_eq, ?_, ?_, ?_, ?_, hshows.ascending, ?_⟩
  · intro bucket
    simp only [hshows.bucket_eq, Option.map_eq_some_iff, Bucket.ofCount_eq_iff]
  · intro bucket hbucket
    rw [hshows.table_of_bucket hbucket]
    refine ⟨rfl, bucket.presets_kinds, ?_, ?_, table.get?_overlay bucket⟩
    · exact fun p hp => table.get?_overlay_of_mem hp
    · exact fun kind hkind => table.get?_overlay_of_unmanaged bucket hkind
  · intro hbucket
    rw [hshows.table_eq, hbucket]
    rfl
  · intro next
    refine ⟨?_, ?_, after_of_not_isApplied⟩
    · rw [isApplied_answer_iff, hshows.last_eq, ne_eq, Prod.mk.injEq]
    · intro happlied
      refine ⟨answer_of_isApplied happlied, ?_⟩
      rw [after_of_isApplied happlied]
  · intro others hlast
    exact hshows.table_unique (shows_run table others) hlast

open Registry in
/-- On the table of a test network one attempt is applied, one falls into a mining window,
one is applied again, and one comes too late.  The kind that only tests know stays. -/
theorem run_refines_applied_twice :
    let table := Table.ofList
      [Preset.llmq3_60, Preset.llmq20_60, Preset.llmq20_85, Preset.llmq5_60Regtest]
    let attempts : List Attempt :=
      [⟨5, 700, false⟩, ⟨12, 300, false⟩, ⟨60, 300, true⟩, ⟨9, 50, false⟩]
    let r := (ofTable table).run attempts
    (ofTable table).applied attempts = [⟨5, 700, false⟩, ⟨60, 300, true⟩] ∧
      r.bucket = some .medium ∧
      r.table.get? .llmq50_60 = some Preset.llmq50_60 ∧
      r.table.get? .llmq400_60 = some Preset.llmq40_60 ∧
      r.table.get? .llmq400_85 = some Preset.llmq40_85 ∧
      r.table.get? .llmq5_60 = some Preset.llmq5_60Regtest := by
  intro table attempts r
  have hdone : (ofTable table).applied attempts = [⟨5, 700, false⟩, ⟨60, 300, true⟩] := by decide
  obtain ⟨-, -, hbuckets, htable, -⟩ := run_refines_applied table attempts
  have hbucket : r.bucket = some .medium := by
    apply (hbuckets .medium).mpr
    rw [hdone]
    exact ⟨⟨60, 300, true⟩, rfl, by decide⟩
  obtain ⟨-, -, -, -, hfiled⟩ := htable .medium hbucket
  refine ⟨hdone, hbucket, hfiled .llmq50_60, hfiled .llmq400_60, hfiled .llmq400_85, ?_⟩
  rw [hfiled .llmq5_60]
  decide

end QuorumNode.Quorum
