/-
The quorum table: at most one parameter set for each kind, listed in the order
of the kinds' numbers.  A parameter set is filed under its own kind, so the
table needs no key of its own.
-/
import QuorumNode.Quorum.Params

namespace QuorumNode.Quorum

/-- Puts `p` into an ascending list, in the place of the entry of its kind. -/
def place (p : Params) : List Params → List Params
  | [] => [p]
  | q :: rest =>
      if p.kind.id < q.kind.id then p :: q :: rest
      else if p.kind = q.kind then p :: rest
      else q :: place p rest

/-- Entries stand in the order of their kinds, no two of one kind. -/
def Ascending (entries : List Params) : Prop :=
  entries.Pairwise fun p q => p.kind.id < q.kind.id

theorem kind_of_mem_place {p q : Params} {entries : List Params}
    (hq : q ∈ place p entries) : q = p ∨ q ∈ entries := by
  induction entries with
  | nil => exact Or.inl (by simpa [place] using hq)
  | cons head rest ih =>
      unfold place at hq
      split at hq
      · simpa using hq
      · split at hq
        · rcases List.mem_cons.mp hq with h | h
          · exact Or.inl h
          · exact Or.inr (List.mem_cons_of_mem head h)
        · rcases List.mem_cons.mp hq with h | h
          · exact Or.inr (h ▸ List.mem_cons_self)
          · exact (ih h).imp_right (List.mem_cons_of_mem head)

theorem ascending_place (p : Params) {entries : List Params}
    (h : Ascending entries) : Ascending (place p entries) := by
  induction entries with
  | nil => exact List.pairwise_singleton _ p
  | cons head rest ih =>
      obtain ⟨hhead, hrest⟩ := List.pairwise_cons.mp h
      unfold place
      split
      · next hlt =>
          refine List.pairwise_cons.mpr ⟨fun q hq => ?_, h⟩
          rcases List.mem_cons.mp hq with rfl | hq
          · exact hlt
          · exact Nat.lt_trans hlt (hhead q hq)
      · next hnot =>
          split
          · next hkind =>
              exact List.pairwise_cons.mpr ⟨fun q hq => hkind ▸ hhead q hq, hrest⟩
          · next hkind =>
              refine List.pairwise_cons.mpr ⟨fun q hq => ?_, ih hrest⟩
              rcases kind_of_mem_place hq with rfl | hq
              · have : q.kind.id ≠ head.kind.id := fun h => hkind (Kind.id_injective h)
                omega
              · exact hhead q hq

theorem find?_place_self (p : Params) (entries : List Params) :
    (place p entries).find? (·.kind = p.kind) = some p := by
  induction entries with
  | nil => simp [place]
  | cons head rest ih =>
      unfold place
      split
      · simp
      · split
        · simp
        · next hkind => simpa [List.find?_cons, Ne.symm hkind] using ih

theorem find?_place_of_ne {p : Params} {kind : Kind} (hne : kind ≠ p.kind)
    (entries : List Params) :
    (place p entries).find? (·.kind = kind) = entries.find? (·.kind = kind) := by
  induction entries with
  | nil => simp [place, Ne.symm hne]
  | cons head rest ih =>
      unfold place
      split
      · simp [List.find?_cons, Ne.symm hne]
      · split
        · next hkind => simp [← hkind, Ne.symm hne]
        · simp [List.find?_cons, ih]

/-- A finite table of parameter sets, at most one of each kind. -/
structure Table where
  entries : List Params
  ascending : Ascending entries
deriving DecidableEq, Repr

namespace Table

def empty : Table := ⟨[], List.Pairwise.nil⟩

instance : Inhabited Table := ⟨empty⟩

def get? (table : Table) (kind : Kind) : Option Params :=
  table.entries.find? (·.kind = kind)

def contains (table : Table) (kind : Kind) : Bool :=
  (table.get? kind).isSome

/-- Every entry with the kind it is filed under, in the order of the kinds. -/
def items (table : Table) : List (Kind × Params) :=
  table.entries.map fun p => (p.kind, p)

/-- Files `p` under its own kind and drops the entry that was there. -/
def insert (table : Table) (p : Params) : Table :=
  ⟨place p table.entries, ascending_place p table.ascending⟩

@[simp] theorem get?_empty (kind : Kind) : empty.get? kind = none := rfl

@[simp] theorem get?_insert_self (table : Table) (p : Params) :
    (table.insert p).get? p.kind = some p :=
  find?_place_self p table.entries

theorem get?_insert_of_ne {p : Params} {kind : Kind} (hne : kind ≠ p.kind)
    (table : Table) : (table.insert p).get? kind = table.get? kind :=
  find?_place_of_ne hne table.entries

theorem mem_items_iff {table : Table} {kind : Kind} {p : Params} :
    (kind, p) ∈ table.items ↔ p ∈ table.entries ∧ p.kind = kind := by
  simp only [items, List.mem_map, Prod.mk.injEq]
  constructor
  · rintro ⟨q, hq, hkind, rfl⟩
    exact ⟨hq, hkind⟩
  · rintro ⟨hp, hkind⟩
    exact ⟨p, hp, hkind, rfl⟩

/-- Files every set of the list; of two with one kind the later wins. -/
def ofList (ps : List Params) : Table :=
  ps.foldl insert empty

def size (table : Table) : Nat := table.entries.length

end Table

end QuorumNode.Quorum
