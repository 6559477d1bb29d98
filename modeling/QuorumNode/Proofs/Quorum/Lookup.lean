/-
A quorum table is what its look-ups say: two tables that answer alike are equal.
Overlaying a table with the presets of a bucket shows these at the managed kinds
and the table at all others, so only the last of several overlays shows.
-/
import Mathlib.Data.List.Sort
import QuorumNode.Quorum.Registry

namespace QuorumNode.Quorum

/-- `height` lies in the window in which the final commitment of `p` may be
mined. -/
def Params.InWindow (p : Params) (height : Nat) : Prop :=
  p.interval ≠ 0 ∧ p.windowFirst ≤ height % p.interval ∧ height % p.interval ≤ p.windowLast

theorem Params.mining_eq_true_iff (p : Params) (height : Nat) :
    p.mining height = true ↔ p.InWindow height := by
  simp [Params.mining, Params.InWindow]

namespace Bucket

/-- The counts of masternodes that make a bucket. -/
def Covers : Bucket → Nat → Prop
  | tiny, count => count < 5
  | small, count => 5 ≤ count ∧ count < 100
  | medium, count => 100 ≤ count ∧ count < 600
  | large, count => 600 ≤ count

/-- The preset that a bucket has for a kind.  Where there are few masternodes, small
quorums stand in for the kinds of the large ones. -/
def preset? : Bucket → Kind → Option Params
  | tiny, .llmq50_60 | small, .llmq50_60 => some Preset.llmq3_60
  | tiny, .llmq400_60 | small, .llmq400_60 => some Preset.llmq20_60
  | tiny, .llmq400_85 | small, .llmq400_85 => some Preset.llmq20_85
  | medium, .llmq50_60 | large, .llmq50_60 => some Preset.llmq50_60
  | medium, .llmq400_60 => some Preset.llmq40_60
  | medium, .llmq400_85 => some Preset.llmq40_85
  | large, .llmq400_60 => some Preset.llmq400_60
  | large, .llmq400_85 => some Preset.llmq400_85
  | _, .llmq5_60 => none

theorem covers_ofCount (count : Nat) : (ofCount count).Covers count := by
  unfold ofCount
  split
  · next htiny => exact htiny
  split
  · next hfive hsmall => exact ⟨Nat.le_of_not_lt hfive, hsmall⟩
  split
  · next hhundred hmedium => exact ⟨Nat.le_of_not_lt hhundred, hmedium⟩
  · next hlarge => exact Nat.le_of_not_lt hlarge

/-- No count makes two buckets. -/
theorem Covers.unique {first last : Bucket} {count : Nat} (hfirst : first.Covers count)
    (hlast : last.Covers count) : first = last := by
  cases first <;> cases last <;> simp only [Covers] at hfirst hlast <;> first | rfl | omega

theorem ofCount_eq_iff {count : Nat} {bucket : Bucket} :
    ofCount count = bucket ↔ bucket.Covers count := by
  constructor
  · rintro rfl
    exact covers_ofCount count
  · exact (covers_ofCount count).unique

instance (bucket : Bucket) (count : Nat) : Decidable (bucket.Covers count) :=
  decidable_of_iff _ ofCount_eq_iff

theorem find?_presets (bucket : Bucket) (kind : Kind) :
    bucket.presets.find? (·.kind = kind) = bucket.preset? kind := by
  cases bucket <;> cases kind <;> rfl

theorem mem_of_preset? {bucket : Bucket} {kind : Kind} {p : Params}
    (hpreset : bucket.preset? kind = some p) : p ∈ bucket.presets := by
  rw [← find?_presets] at hpreset
  exact List.mem_of_find?_eq_some hpreset

theorem preset?_of_mem {bucket : Bucket} {p : Params} (hp : p ∈ bucket.presets) :
    bucket.preset? p.kind = some p := by
  revert p
  cases bucket <;> decide

/-- The managed kinds are those that every bucket has a preset for. -/
theorem preset?_eq_none_iff (bucket : Bucket) (kind : Kind) :
    bucket.preset? kind = none ↔ kind ∉ managedKinds := by
  cases bucket <;> cases kind <;> decide

end Bucket

theorem find?_kind_of_mem {entries : List Params} (hascending : Ascending entries) {p : Params}
    (hp : p ∈ entries) : entries.find? (·.kind = p.kind) = some p := by
  induction entries with
  | nil => cases hp
  | cons head rest ih =>
      obtain ⟨hhead, hrest⟩ := List.pairwise_cons.mp hascending
      rcases List.mem_cons.mp hp with rfl | hp
      · simp
      · have hne : head.kind ≠ p.kind := Kind.ne_of_id_lt (hhead p hp)
        rw [List.find?_cons_of_neg (by simpa using hne)]
        exact ih hrest hp

theorem find?_kind_eq_none {entries : List Params} {kind : Kind}
    (habove : ∀ p ∈ entries, kind.id < p.kind.id) : entries.find? (·.kind = kind) = none := by
  apply List.find?_eq_none.mpr
  intro p hp hkind
  exact Kind.ne_of_id_lt (habove p hp) (of_decide_eq_true hkind).symm

/-- Two lists that ascend by one measure are equal if they have the same members. -/
theorem eq_of_mem_iff_of_ascending {α : Type} {measure : α → Nat} {left right : List α}
    (hleft : left.Pairwise fun first second => measure first < measure second)
    (hright : right.Pairwise fun first second => measure first < measure second)
    (hmem : ∀ item, item ∈ left ↔ item ∈ right) : left = right := by
  have hirrefl : Std.Irrefl fun first second : α => measure first < measure second :=
    ⟨fun item => Nat.lt_irrefl (measure item)⟩
  have hantisymm : Std.Antisymm fun first second : α => measure first < measure second :=
    ⟨fun first second hless hgreater => absurd hgreater (Nat.lt_asymm hless)⟩
  exact List.Pairwise.eq_of_mem_iff hleft hright hmem

namespace Table

theorem mining_iff_inWindow (table : Table) (height : Nat) :
    table.mining height = true ↔ ∃ p ∈ table.entries, p.InWindow height := by
  simp only [mining_eq_true_iff, Params.mining_eq_true_iff]

theorem ascending_items (table : Table) :
    table.items.Pairwise fun first second => first.1.id < second.1.id :=
  List.pairwise_map.mpr table.ascending

theorem mem_entries_iff (table : Table) (p : Params) :
    p ∈ table.entries ↔ table.get? p.kind = some p :=
  ⟨find?_kind_of_mem table.ascending, List.mem_of_find?_eq_some⟩

theorem eq_of_get? {left right : Table} (hget : ∀ kind, left.get? kind = right.get? kind) :
    left = right := by
  have hentries : left.entries = right.entries := by
    apply eq_of_mem_iff_of_ascending left.ascending right.ascending
    intro p
    rw [mem_entries_iff, mem_entries_iff, hget]
  cases left
  cases right
  simpa using hentries

/-- Of the sets that are filed in a row the last one of a kind is found. -/
theorem get?_foldl_insert (ps : List Params) (table : Table) (kind : Kind) :
    (ps.foldl insert table).get? kind =
      (ps.reverse.find? (·.kind = kind)).or (table.get? kind) := by
  induction ps generalizing table with
  | nil => rfl
  | cons p rest ih =>
      rw [List.foldl_cons, ih, List.reverse_cons, List.find?_append, Option.or_assoc]
      congr 1
      by_cases hkind : p.kind = kind
      · subst kind
        simp
      · simp [hkind, get?_insert_of_ne (Ne.symm hkind)]

/-- An overlaid table has the presets of the bucket, and where the bucket has none it has
what it had before. -/
theorem get?_overlay (table : Table) (bucket : Bucket) (kind : Kind) :
    (table.overlay bucket).get? kind = (bucket.preset? kind).or (table.get? kind) := by
  rw [overlay, get?_foldl_insert]
  congr 1
  -- No two presets of a bucket are of one kind, so the order does not matter.
  cases bucket <;> cases kind <;> rfl

theorem get?_overlay_of_mem (table : Table) {bucket : Bucket} {p : Params}
    (hp : p ∈ bucket.presets) : (table.overlay bucket).get? p.kind = some p := by
  rw [get?_overlay, Bucket.preset?_of_mem hp, Option.some_or]

theorem get?_overlay_of_unmanaged (table : Table) (bucket : Bucket) {kind : Kind}
    (hkind : kind ∉ managedKinds) : (table.overlay bucket).get? kind = table.get? kind := by
  rw [get?_overlay, (bucket.preset?_eq_none_iff kind).mpr hkind, Option.none_or]

theorem mem_entries_of_overlay {table : Table} {bucket : Bucket} {p : Params}
    (hp : p ∈ (table.overlay bucket).entries) : p ∈ bucket.presets ∨ p ∈ table.entries := by
  rw [mem_entries_iff, get?_overlay, Option.or_eq_some_iff] at hp
  rcases hp with hpreset | ⟨-, hkept⟩
  · exact Or.inl (Bucket.mem_of_preset? hpreset)
  · exact Or.inr (List.mem_of_find?_eq_some hkept)

/-- An overlay leaves no trace of the one before. -/
theorem overlay_overlay (table : Table) (first last : Bucket) :
    (table.overlay first).overlay last = table.overlay last := by
  apply eq_of_get?
  intro kind
  rw [get?_overlay, get?_overlay, get?_overlay]
  cases hlast : last.preset? kind with
  | some p => rfl
  | none =>
      -- Where the last bucket has no preset, the first has none either.
      have hunmanaged := (last.preset?_eq_none_iff kind).mp hlast
      rw [(first.preset?_eq_none_iff kind).mpr hunmanaged, Option.none_or]

end Table

end QuorumNode.Quorum
