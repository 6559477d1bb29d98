/-
Records of which only some fields are given.  The members of an object may come in any order
and stand among others that no field is called after; each field reads as it is given, and a
field that is not given as its fallback.
-/
import QuorumNode.Data.Record

namespace QuorumNode.Data

/-! Reading what was made -/

namespace Value

theorem string?_ofString (s : String) : (ofString s).string? = some s := rfl

theorem bool?_bool (b : Bool) : (bool b).bool? = some b := rfl

theorem intIn?_int {low high n : Int} (hn : low ≤ n ∧ n < high) :
    intIn? low high (.int n) = some n :=
  if_pos hn

/-- In the range of a signed word of 64 bits. -/
def IsInt64 (n : Int) : Prop := -0x8000000000000000 ≤ n ∧ n < 0x8000000000000000

theorem int64?_int {n : Int} (hn : IsInt64 n) : int64? (.int n) = some n :=
  intIn?_int hn

theorem natBelow?_ofNat {bound n : Nat} (hn : n < bound) : natBelow? bound (.ofNat n) = some n := by
  rw [natBelow?, ofNat, intIn?_int ⟨Int.natCast_nonneg n, Int.ofNat_lt.mpr hn⟩]
  rfl

theorem nat32?_ofNat {n : Nat} (hn : n < 0x100000000) : nat32? (.ofNat n) = some n :=
  natBelow?_ofNat hn

theorem nat64?_ofNat {n : Nat} (hn : n < 0x10000000000000000) : nat64? (.ofNat n) = some n :=
  natBelow?_ofNat hn

theorem optionalString?_ofOption (s : Option String) :
    (ofOption ofString s).optionalString? = some s := by
  cases s <;> rfl

theorem listOf?_ofList {α : Type} {item? : Value → Option α} {f : α → Value}
    (hitem : ∀ a, item? (f a) = some a) (items : List α) :
    (ofList f items).listOf? item? = some items := by
  rw [ofList, listOf?]
  induction items with
  | nil => rfl
  | cons a rest ih => simp [hitem, ih]

end Value

/-! Some of the entries of a record -/

/-- The members give the entries named in `kept`, in any order, and `extra` besides, no member
of which is called after an entry. -/
structure Gives (entries : List (String × Value)) (kept : List String)
    (extra members : List (Option String × Value)) : Prop where
  members : members.Perm
    ((entries.filter (·.1 ∈ kept)).map (fun entry => (some entry.1, entry.2)) ++ extra)
  extra : ∀ member ∈ extra, ∃ name, member.1 = some name ∧ name ∉ entries.map (·.1)

theorem filter_name {entries : List (String × Value)} {name : String} {v : Value}
    (hnames : (entries.map (·.1)).Nodup) (hentry : (name, v) ∈ entries) :
    entries.filter (·.1 == name) = [(name, v)] := by
  induction entries with
  | nil => contradiction
  | cons entry rest ih =>
      rw [List.map_cons, List.nodup_cons] at hnames
      obtain ⟨hentryName, hrest⟩ := hnames
      cases hentry with
      | head =>
          have hnone : rest.filter (·.1 == name) = [] := by
            rw [List.filter_eq_nil_iff]
            intro other hother hname
            exact hentryName (List.mem_map.mpr ⟨other, hother, by simpa using hname⟩)
          rw [List.filter_cons_of_pos (by simp), hnone]
      | tail _ hmem =>
          have hother : entry.1 ≠ name := by
            rintro rfl
            exact hentryName (List.mem_map.mpr ⟨_, hmem, rfl⟩)
          rw [List.filter_cons_of_neg (by simpa using hother), ih hrest hmem]

theorem filter_kept {entries : List (String × Value)} {kept : List String} {name : String}
    {v : Value} (hnames : (entries.map (·.1)).Nodup) (hentry : (name, v) ∈ entries) :
    ((entries.filter (·.1 ∈ kept)).map fun entry => (some entry.1, entry.2)).filter
      (·.1 == some name) = if name ∈ kept then [(some name, v)] else [] := by
  have hswap : (entries.filter (·.1 ∈ kept)).filter (·.1 == name) =
      (entries.filter (·.1 == name)).filter (·.1 ∈ kept) := by
    simp only [List.filter_filter, Bool.and_comm]
  have hname : ((fun member : Option String × Value => member.1 == some name) ∘
      fun entry : String × Value => (some entry.1, entry.2)) = fun entry =>
        entry.1 == name := by
    funext entry
    simp
  rw [List.filter_map, hname, hswap, filter_name hnames hentry]
  by_cases hmem : name ∈ kept
  · simp [hmem]
  · simp [hmem]

namespace Gives

variable {entries : List (String × Value)} {kept : List String}
  {extra members : List (Option String × Value)} {v : Value}

theorem mem_cases (hgives : Gives entries kept extra members)
    {member : Option String × Value} (hmember : member ∈ members) :
    (∃ entry ∈ entries, (some entry.1, entry.2) = member) ∨ member ∈ extra := by
  rw [hgives.members.mem_iff, List.mem_append, List.mem_map] at hmember
  rcases hmember with ⟨entry, hentry, rfl⟩ | hmember
  · exact Or.inl ⟨entry, (List.mem_filter.mp hentry).1, rfl⟩
  · exact Or.inr hmember

/-- A kept entry is given once, and an entry that is not kept is not given. -/
theorem filter_eq {name : String} (hgives : Gives entries kept extra members)
    (hnames : (entries.map (·.1)).Nodup) (hentry : (name, v) ∈ entries) :
    members.filter (·.1 == some name) = if name ∈ kept then [(some name, v)] else [] := by
  have hextra : extra.filter (·.1 == some name) = [] := by
    rw [List.filter_eq_nil_iff]
    intro member hmember hname
    obtain ⟨other, hother, hnew⟩ := hgives.extra member hmember
    have hsame : other = name := by simpa [hother] using hname
    exact hnew (hsame ▸ List.mem_map.mpr ⟨_, hentry, rfl⟩)
  have hperm := hgives.members.filter (·.1 == some name)
  rw [List.filter_append, hextra, filter_kept hnames hentry, List.append_nil] at hperm
  by_cases hmem : name ∈ kept
  · rw [if_pos hmem, List.perm_singleton] at hperm
    rw [hperm, if_pos hmem]
  · rw [if_neg hmem, List.perm_nil] at hperm
    rw [hperm, if_neg hmem]

theorem isRecord (hgives : Gives entries kept extra members)
    (hnames : (entries.map (·.1)).Nodup) :
    (Value.object members).isRecord (entries.map (·.1)) = true := by
  rw [Value.isRecord, Bool.and_eq_true, List.all_eq_true, List.all_eq_true]
  constructor
  · intro member hmember
    rcases hgives.mem_cases hmember with ⟨entry, -, rfl⟩ | hmember
    · rfl
    · obtain ⟨name, hname, -⟩ := hgives.extra member hmember
      rw [hname]
      rfl
  · intro name hname
    obtain ⟨⟨_, v⟩, hentry, rfl⟩ := List.mem_map.mp hname
    rw [hgives.filter_eq hnames hentry, decide_eq_true_eq]
    split <;> simp

/-- A field reads as it is given, or as its fallback. -/
theorem fieldOr_eq {α : Type} {read? : Value → Option α} {a : α} {fallback : α}
    {fields : List String} (hgives : Gives entries kept extra members)
    (hnames : (entries.map (·.1)).Nodup) (name : String) (hentry : (name, v) ∈ entries)
    (hread : read? v = some a) :
    (Value.object members).fieldOr fields name read? fallback =
      some (if name ∈ kept then a else fallback) := by
  rw [Value.fieldOr, Value.field?, ← List.head?_filter, hgives.filter_eq hnames hentry]
  by_cases hmem : name ∈ kept
  · simp [hmem, hread]
  · simp [hmem]

/-- What holds of the values of the entries and of the extra members holds of all. -/
theorem forall_members {P : Value → Prop} (hgives : Gives entries kept extra members)
    (hentries : ∀ entry ∈ entries, P entry.2) (hextra : ∀ member ∈ extra, P member.2) :
    ∀ member ∈ members, P member.2 := by
  intro member hmember
  rcases hgives.mem_cases hmember with ⟨entry, hentry, rfl⟩ | hmember
  · exact hentries entry hentry
  · exact hextra member hmember

end Gives

/-- A whole record gives all its entries. -/
theorem gives_all (entries : List (String × Value)) :
    Gives entries (entries.map (·.1)) [] (entries.map fun entry => (some entry.1, entry.2)) where
  members := by
    have hall : entries.filter (·.1 ∈ entries.map (·.1)) = entries := by
      rw [List.filter_eq_self]
      intro entry hentry
      exact decide_eq_true (List.mem_map.mpr ⟨entry, hentry, rfl⟩)
    rw [hall, List.append_nil]
  extra := List.forall_mem_nil _

end QuorumNode.Data
