/-
What a quorum table holds.  However sets are filed, all at once or one by one, the table
has the last set of each kind and nothing else, so it does not depend on the order in which
different kinds came.
-/
import Mathlib.Data.Finset.Card
import QuorumNode.Proofs.Quorum.Lookup
import QuorumNode.Quorum.Rows

namespace QuorumNode.Quorum

/-- The last set of a kind in a list. -/
def lastOf? (kind : Kind) (ps : List Params) : Option Params :=
  (ps.filter (·.kind = kind)).getLast?

theorem find?_reverse_eq_lastOf? (kind : Kind) (ps : List Params) :
    ps.reverse.find? (·.kind = kind) = lastOf? kind ps := by
  rw [lastOf?, ← List.head?_filter, List.filter_reverse, List.head?_reverse]

theorem lastOf?_eq_none_iff (kind : Kind) (ps : List Params) :
    lastOf? kind ps = none ↔ kind ∉ ps.map Params.kind := by
  rw [lastOf?, List.getLast?_eq_none_iff, List.filter_eq_nil_iff]
  simp

namespace Table

theorem get?_eq_none_iff (table : Table) (kind : Kind) :
    table.get? kind = none ↔ kind ∉ table.entries.map Params.kind := by
  rw [get?, List.find?_eq_none]
  simp

theorem get?_ofList_append (ps qs : List Params) (kind : Kind) :
    (qs.foldl insert (ofList ps)).get? kind = lastOf? kind (ps ++ qs) := by
  rw [ofList, ← List.foldl_append, get?_foldl_insert, find?_reverse_eq_lastOf?, get?_empty,
    Option.or_none]

/-- A table is as long as there are kinds in what was filed. -/
theorem size_ofList_append (ps qs : List Params) :
    (qs.foldl insert (ofList ps)).size = ((ps ++ qs).map Params.kind).toFinset.card := by
  let table := qs.foldl insert (ofList ps)
  have hnodup : (table.entries.map Params.kind).Nodup := by
    apply List.pairwise_map.mpr
    exact table.ascending.imp Kind.ne_of_id_lt
  have hkinds : (table.entries.map Params.kind).toFinset =
      ((ps ++ qs).map Params.kind).toFinset := by
    ext kind
    rw [List.mem_toFinset, List.mem_toFinset, ← not_iff_not, ← get?_eq_none_iff,
      ← lastOf?_eq_none_iff, get?_ofList_append]
  rw [← hkinds, List.toFinset_card_of_nodup hnodup, List.length_map]
  rfl

end Table

namespace Rows

/-! Filing one by one -/

theorem get?_items (table : Table) (kind : Kind) : get? table.items kind = table.get? kind := by
  rw [get?, Table.items, List.find?_map, Option.map_map]
  exact Option.map_id'

/-- In ascending rows the walk ends early without missing the key. -/
theorem put_map_row (p : Params) {entries : List Params} (hascending : Ascending entries) :
    put p.kind p (entries.map Params.row) =
      (entries.find? (·.kind = p.kind), (place p entries).map Params.row) := by
  induction entries with
  | nil => rfl
  | cons head rest ih =>
      obtain ⟨hhead, hrest⟩ := List.pairwise_cons.mp hascending
      rw [List.map_cons, put, place, Params.row_fst, Params.row_snd]
      by_cases hless : p.kind.id < head.kind.id
      · have hnone : (head :: rest).find? (·.kind = p.kind) = none := by
          apply find?_kind_eq_none
          intro q hq
          rcases List.mem_cons.mp hq with rfl | hq
          · exact hless
          · exact Nat.lt_trans hless (hhead q hq)
        rw [hnone, if_pos hless, if_pos hless]
        rfl
      · rw [if_neg hless, if_neg hless]
        by_cases hkind : p.kind = head.kind
        · have hfound : (head :: rest).find? (·.kind = p.kind) = some head :=
            List.find?_cons_of_pos (by simp [hkind])
          rw [hfound, if_pos hkind, if_pos hkind]
          rfl
        · have hlater : (head :: rest).find? (·.kind = p.kind) = rest.find? (·.kind = p.kind) :=
            List.find?_cons_of_neg (by simp [Ne.symm hkind])
          rw [hlater, if_neg hkind, if_neg hkind, ih hrest]
          rfl

theorem put_items (p : Params) (table : Table) :
    put p.kind p table.items = (table.get? p.kind, (table.insert p).items) :=
  put_map_row p table.ascending

theorem file_items (ps : List Params) (table : Table) :
    (file table.items ps).2 = (ps.foldl Table.insert table).items := by
  induction ps generalizing table with
  | nil => rfl
  | cons p rest ih =>
      rw [file, put_items]
      exact ih (table.insert p)

theorem file_answers (ps : List Params) (table : Table) (i : Nat) :
    (file table.items ps).1[i]? =
      ps[i]?.map fun p => ((ps.take i).foldl Table.insert table).get? p.kind := by
  induction ps generalizing table i with
  | nil => rfl
  | cons p rest ih =>
      rw [file, put_items]
      cases i with
      | zero => rfl
      | succ i => exact ih (table.insert p) i

/-! Filing all at once -/

theorem keepLast_sublist (rows : Rows) : (keepLast rows).Sublist rows := by
  induction rows with
  | nil => exact List.Sublist.slnil
  | cons row rest ih =>
      rw [keepLast]
      split
      · exact ih.cons row
      · exact ih.cons_cons row

/-- In rows that ascend, though not strictly, a row that is kept stands below all after it. -/
theorem lt_of_kept {row : Kind × Params} {rest : Rows}
    (hordered : (row :: rest).Pairwise fun first second => keyLe first second = true)
    (hkept : ¬rest.head?.any (·.1 = row.1) = true) :
    ∀ later ∈ rest, row.1.id < later.1.id := by
  cases rest with
  | nil => simp
  | cons next rest =>
      obtain ⟨hrow, hrest⟩ := List.pairwise_cons.mp hordered
      obtain ⟨hnext, -⟩ := List.pairwise_cons.mp hrest
      have hne : row.1.id ≠ next.1.id := by
        intro hid
        apply hkept
        simp [Kind.id_injective hid]
      have hless : row.1.id < next.1.id :=
        Nat.lt_of_le_of_ne ((keyLe_iff _ _).mp (hrow next List.mem_cons_self)) hne
      intro later hlater
      rcases List.mem_cons.mp hlater with rfl | hlater
      · exact hless
      · exact Nat.lt_of_lt_of_le hless ((keyLe_iff _ _).mp (hnext later hlater))

theorem ascending_keepLast {rows : Rows}
    (hordered : rows.Pairwise fun first second => keyLe first second = true) :
    (keepLast rows).Pairwise fun first second => first.1.id < second.1.id := by
  induction rows with
  | nil => exact List.Pairwise.nil
  | cons row rest ih =>
      have hrest := ih hordered.tail
      rw [keepLast]
      split
      · exact hrest
      · next hkept =>
          apply List.pairwise_cons.mpr
          refine ⟨?_, hrest⟩
          intro later hlater
          exact lt_of_kept hordered hkept later ((keepLast_sublist rest).subset hlater)

/-- A row that is dropped is not the last under its key. -/
theorem getLast?_filter_of_dropped {row : Kind × Params} {rest : Rows}
    (hdropped : rest.head?.any (·.1 = row.1) = true) (key : Kind) :
    ((row :: rest).filter (·.1 = key)).getLast? = (rest.filter (·.1 = key)).getLast? := by
  rw [List.filter_cons]
  by_cases hkey : row.1 = key
  · obtain ⟨next, hnext, hsame⟩ := (Option.any_eq_true _ _).mp hdropped
    have hmem : next ∈ rest.filter (·.1 = key) := by
      apply List.mem_filter.mpr
      exact ⟨List.mem_of_mem_head? hnext, by simpa [hkey] using hsame⟩
    rw [if_pos (decide_eq_true hkey), List.getLast?_cons_of_ne_nil (List.ne_nil_of_mem hmem)]
  · rw [if_neg (by simpa using hkey)]

theorem mem_keepLast_iff {rows : Rows}
    (hordered : rows.Pairwise fun first second => keyLe first second = true)
    (row : Kind × Params) :
    row ∈ keepLast rows ↔ (rows.filter (·.1 = row.1)).getLast? = some row := by
  induction rows with
  | nil => simp [keepLast]
  | cons head rest ih =>
      have hrest := ih hordered.tail
      rw [keepLast]
      by_cases hdropped : rest.head?.any (·.1 = head.1) = true
      · rw [if_pos hdropped, hrest, getLast?_filter_of_dropped hdropped]
      · have hlater := lt_of_kept hordered hdropped
        rw [if_neg hdropped, List.mem_cons, hrest, List.filter_cons]
        by_cases hkey : head.1 = row.1
        · -- `head` is the only row under its key, since those after it have greater keys.
          have hnil : rest.filter (·.1 = row.1) = [] := by
            apply List.filter_eq_nil_iff.mpr
            intro later hmem hsame
            apply Kind.ne_of_id_lt (hlater later hmem)
            rw [hkey, of_decide_eq_true hsame]
          rw [if_pos (decide_eq_true hkey), hnil]
          simp [eq_comm]
        · have hne : row ≠ head := by
            rintro rfl
            exact hkey rfl
          rw [if_neg (by simpa using hkey)]
          simp [hne]

theorem keyLe_trans (first second third : Kind × Params) (hfirst : keyLe first second = true)
    (hsecond : keyLe second third = true) : keyLe first third = true := by
  rw [keyLe_iff] at hfirst hsecond ⊢
  exact Nat.le_trans hfirst hsecond

theorem keyLe_total (first second : Kind × Params) :
    (keyLe first second || keyLe second first) = true := by
  rw [Bool.or_eq_true, keyLe_iff, keyLe_iff]
  exact Nat.le_total first.1.id second.1.id

theorem ordered_mergeSort (rows : Rows) :
    (rows.mergeSort keyLe).Pairwise fun first second => keyLe first second = true :=
  List.pairwise_mergeSort keyLe_trans keyLe_total rows

/-- Sorting leaves the rows of one key in the order in which they came. -/
theorem filter_mergeSort (rows : Rows) (key : Kind) :
    (rows.mergeSort keyLe).filter (·.1 = key) = rows.filter (·.1 = key) := by
  have hordered : (rows.filter (·.1 = key)).Pairwise
      fun first second => keyLe first second = true := by
    apply List.pairwise_of_forall_mem_list
    intro first hfirst second hsecond
    rw [keyLe_iff, of_decide_eq_true (List.mem_filter.mp hfirst).2,
      of_decide_eq_true (List.mem_filter.mp hsecond).2]
  have hkept : (rows.filter (·.1 = key)).Sublist (rows.mergeSort keyLe) :=
    List.sublist_mergeSort keyLe_trans keyLe_total hordered List.filter_sublist
  have hsublist : (rows.filter (·.1 = key)).Sublist
      ((rows.mergeSort keyLe).filter (·.1 = key)) := by
    simpa only [List.filter_filter, Bool.and_self] using hkept.filter (·.1 = key)
  have hperm : ((rows.mergeSort keyLe).filter (·.1 = key)).Perm (rows.filter (·.1 = key)) :=
    (List.mergeSort_perm rows keyLe).filter _
  exact (hsublist.eq_of_length hperm.length_eq.symm).symm

/-- A table that is built at one go is the one that is built set by set. -/
theorem collect_map_row (ps : List Params) :
    collect (ps.map Params.row) = (Table.ofList ps).items := by
  apply eq_of_mem_iff_of_ascending (ascending_keepLast (ordered_mergeSort _))
    (Table.ofList ps).ascending_items
  rintro ⟨kind, p⟩
  have hfilter : (ps.map Params.row).filter (·.1 = kind) =
      (ps.filter (·.kind = kind)).map Params.row :=
    List.filter_map
  have hget : (Table.ofList ps).get? kind = lastOf? kind ps := by
    simpa using Table.get?_ofList_append ps [] kind
  rw [mem_keepLast_iff (ordered_mergeSort _), filter_mergeSort, hfilter, List.getLast?_map,
    ← lastOf?, ← hget, Option.map_eq_some_iff, Table.mem_items_iff, Table.mem_entries_iff]
  constructor
  · rintro ⟨q, hq, hrow⟩
    obtain ⟨rfl, rfl⟩ := Prod.mk.inj hrow
    exact ⟨hq, rfl⟩
  · rintro ⟨hp, rfl⟩
    exact ⟨p, hp, rfl⟩

end Rows

/-- What sets are filed in a table, all at once first and then one by one, is known by the
last set of each kind.  The table is keyed by the kinds of its sets, in ascending order, and
holds for each kind the last of its sets; each set that is filed gives back what was found
under its kind until then. -/
theorem rows_of_filing (ps qs : List Params) :
    let start := Rows.collect (ps.map Params.row)
    let rows := (Rows.file start qs).2
    let table := qs.foldl Table.insert (Table.ofList ps)
    rows = table.items ∧
    start = (Rows.file [] ps).2 ∧
    (∀ row ∈ rows, row.1 = row.2.kind) ∧
    (∀ kind,
      Rows.get? rows kind = lastOf? kind (ps ++ qs) ∧
      table.get? kind = lastOf? kind (ps ++ qs)) ∧
    (∀ i, (Rows.file start qs).1[i]? =
      qs[i]?.map fun q => Rows.get? (Rows.file start (qs.take i)).2 q.kind) ∧
    rows.length = table.size ∧
    table.size = ((ps ++ qs).map Params.kind).toFinset.card ∧
    rows.Pairwise (fun first second => first.1.id < second.1.id) ∧
    ∀ others more : List Params,
      more.foldl Table.insert (Table.ofList others) = table ↔
        ∀ kind, lastOf? kind (others ++ more) = lastOf? kind (ps ++ qs) := by
  intro start rows table
  have hstart : start = (Table.ofList ps).items := Rows.collect_map_row ps
  have hfile (filed : List Params) :
      (Rows.file start filed).2 = (filed.foldl Table.insert (Table.ofList ps)).items := by
    rw [hstart]
    exact Rows.file_items filed (Table.ofList ps)
  have hrows : rows = table.items := hfile qs
  have hget (kind : Kind) : table.get? kind = lastOf? kind (ps ++ qs) :=
    Table.get?_ofList_append ps qs kind
  refine ⟨hrows, ?_, ?_, ?_, ?_, ?_, Table.size_ofList_append ps qs, ?_, ?_⟩
  · rw [hstart]
    exact (Rows.file_items ps Table.empty).symm
  · rintro ⟨kind, p⟩ hrow
    rw [hrows] at hrow
    exact (Table.mem_items_iff.mp hrow).2.symm
  · intro kind
    rw [hrows, Rows.get?_items]
    exact ⟨hget kind, hget kind⟩
  · intro i
    simp only [hfile, Rows.get?_items]
    rw [hstart]
    exact Rows.file_answers qs (Table.ofList ps) i
  · rw [hrows]
    exact List.length_map _
  · rw [hrows]
    exact table.ascending_items
  · intro others more
    constructor
    · intro hsame kind
      rw [← Table.get?_ofList_append, hsame, hget]
    · intro hlast
      apply Table.eq_of_get?
      intro kind
      rw [Table.get?_ofList_append, hlast, hget]

/-- Five sets of three kinds are filed, two of one kind among the first three.  The set that
is replaced later is given back, and the table is the one that is built at once of the three
sets that are left, in another order. -/
theorem rows_of_filing_replaced :
    let ps := [Preset.llmq20_85, Preset.llmq50_60, Preset.llmq3_60]
    let qs := [Preset.llmq400_85, Preset.llmq400_60]
    let start := Rows.collect (ps.map Params.row)
    (Rows.file start qs).2 =
        [Preset.llmq3_60.row, Preset.llmq400_60.row, Preset.llmq400_85.row] ∧
      (Rows.file start qs).1[0]? = some (some Preset.llmq20_85) ∧
      Table.ofList [Preset.llmq400_60, Preset.llmq400_85, Preset.llmq3_60] =
        qs.foldl Table.insert (Table.ofList ps) := by
  intro ps qs start
  obtain ⟨hrows, -, -, -, hanswers, -, -, -, hsame⟩ := rows_of_filing ps qs
  obtain ⟨-, -, -, hget, -⟩ := rows_of_filing ps []
  refine ⟨hrows, ?_, ?_⟩
  · rw [hanswers 0]
    exact congrArg some (hget .llmq400_85).1
  · apply (hsame [Preset.llmq400_60, Preset.llmq400_85, Preset.llmq3_60] []).mpr
    intro kind
    cases kind <;> rfl

end QuorumNode.Quorum
