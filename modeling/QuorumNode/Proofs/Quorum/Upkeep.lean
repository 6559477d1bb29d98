/-
Reconfiguring is safe for those who look a quorum up: no kind is ever lost, and
every parameter set that is filed keeps its rules.
-/
import QuorumNode.Proofs.Quorum.History

namespace QuorumNode.Quorum

theorem Bucket.mem_all_of_mem_presets {bucket : Bucket} {p : Params}
    (hp : p ∈ bucket.presets) : p ∈ Preset.all := by
  have hsubset : bucket.presets ⊆ Preset.all := by cases bucket <;> decide
  exact hsubset hp

namespace Table

/-- Every parameter set of the table keeps its rules. -/
def Valid (table : Table) : Prop :=
  ∀ p ∈ table.entries, p.Valid

theorem mem_of_get? {table : Table} {kind : Kind} {p : Params}
    (hget : table.get? kind = some p) : p ∈ table.entries :=
  List.mem_of_find?_eq_some hget

theorem kind_of_get? {table : Table} {kind : Kind} {p : Params}
    (hget : table.get? kind = some p) : p.kind = kind := by
  have hkind := List.find?_some hget
  rwa [decide_eq_true_eq] at hkind

theorem contains_eq_true_iff {table : Table} {kind : Kind} :
    table.contains kind = true ↔ ∃ p, table.get? kind = some p := by
  rw [contains, Option.isSome_iff_exists]

theorem contains_overlay {table : Table} {kind : Kind} (hcontains : table.contains kind = true)
    (bucket : Bucket) : (table.overlay bucket).contains kind = true := by
  rw [contains, get?_overlay, Option.isSome_or, ← contains, hcontains, Bool.or_true]

end Table

namespace Registry

/-- What holds of every preset and of every entry is not lost by an attempt. -/
theorem forall_entries_after {P : Params → Prop} (hpresets : ∀ p ∈ Preset.all, P p)
    {r : Registry} (hentries : ∀ p ∈ r.table.entries, P p) (a : Attempt) :
    ∀ p ∈ (r.after a).table.entries, P p := by
  cases happlied : (r.answer a).isApplied with
  | false => rwa [after_of_not_isApplied happlied]
  | true =>
      rw [after_of_isApplied happlied]
      intro p hp
      rcases Table.mem_entries_of_overlay hp with hpreset | hkept
      · exact hpresets p (Bucket.mem_all_of_mem_presets hpreset)
      · exact hentries p hkept

theorem contains_after {r : Registry} {kind : Kind} (hcontains : r.table.contains kind = true)
    (a : Attempt) : (r.after a).table.contains kind = true := by
  cases happlied : (r.answer a).isApplied with
  | false => rwa [after_of_not_isApplied happlied]
  | true =>
      rw [after_of_isApplied happlied]
      exact Table.contains_overlay hcontains _

/-- What can be looked up in `table` can be looked up in the registry, and whatever
can be looked up there keeps its rules. -/
structure Upholds (table : Table) (r : Registry) : Prop where
  valid : r.table.Valid
  kinds : ∀ kind, table.contains kind = true → r.table.contains kind = true

theorem upholds_ofTable {table : Table} (hvalid : table.Valid) :
    (ofTable table).Upholds table :=
  ⟨hvalid, fun _ hcontains => hcontains⟩

theorem Upholds.after {table : Table} {r : Registry} (hupholds : r.Upholds table)
    (a : Attempt) : (r.after a).Upholds table := by
  constructor
  · exact forall_entries_after Preset.valid_of_mem_all hupholds.valid a
  · intro kind hcontains
    exact contains_after (hupholds.kinds kind hcontains) a

theorem Upholds.run {table : Table} {r : Registry} (hupholds : r.Upholds table)
    (attempts : List Attempt) : (r.run attempts).Upholds table := by
  induction attempts generalizing r with
  | nil => exact hupholds
  | cons a rest ih => exact ih (hupholds.after a)

/-- Nobody is turned away who asks for a kind of `table`. -/
theorem Upholds.active {table : Table} {r : Registry} (hupholds : r.Upholds table)
    {kind : Kind} (hcontains : table.contains kind = true) :
    ∃ p, r.active kind = .ok p ∧ p.kind = kind := by
  obtain ⟨p, hget⟩ := Table.contains_eq_true_iff.mp (hupholds.kinds kind hcontains)
  refine ⟨p, ?_, Table.kind_of_get? hget⟩
  rw [Registry.active, hget]

end Registry

end QuorumNode.Quorum
