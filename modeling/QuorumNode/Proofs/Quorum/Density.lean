/-
How often mining windows are open.  A window recurs with its interval, so a run of heights
as long as the interval meets the whole window wherever it begins.  The windows of a table
recur together with the least common multiple of their intervals.
-/
import Mathlib.Data.Nat.Periodic
import QuorumNode.Proofs.Quorum.Lookup

namespace QuorumNode.Quorum

namespace Params

theorem mining_add_of_dvd {p : Params} {n : Nat} (hdvd : p.interval ∣ n) (height : Nat) :
    p.mining (height + n) = p.mining height := by
  obtain ⟨k, rfl⟩ := hdvd
  rw [mining, mining, Nat.add_mul_mod_self_left]

theorem periodic_mining (p : Params) :
    Function.Periodic (fun height => p.mining height = true) p.interval := by
  intro height
  exact congrArg (· = true) (mining_add_of_dvd (Nat.dvd_refl p.interval) height)

/-- The first interval of the chain has the window in one piece. -/
theorem Valid.filter_range_mining {p : Params} (hvalid : p.Valid) :
    ((Finset.range p.interval).filter fun height => p.mining height = true) =
      Finset.Icc p.windowFirst p.windowLast := by
  have hpos := hvalid.interval_pos
  have hfits := hvalid.window_fits
  ext height
  rw [Finset.mem_filter, Finset.mem_range, Finset.mem_Icc, mining_eq_true_iff]
  constructor
  · rintro ⟨hlt, -, hwindow⟩
    rwa [Nat.mod_eq_of_lt hlt] at hwindow
  · rintro ⟨hfirst, hlast⟩
    have hlt : height < p.interval := Nat.lt_of_le_of_lt hlast hfits
    refine ⟨hlt, Nat.ne_of_gt hpos, ?_⟩
    rw [Nat.mod_eq_of_lt hlt]
    exact ⟨hfirst, hlast⟩

theorem Valid.card_mining {p : Params} (hvalid : p.Valid) (height : Nat) :
    ((Finset.Ico height (height + p.interval)).filter fun h => p.mining h = true).card =
      p.windowLast - p.windowFirst + 1 := by
  have hordered := hvalid.window_ordered
  rw [Nat.filter_Ico_card_eq_of_periodic height p.interval _ p.periodic_mining,
    Nat.count_eq_card_filter_range, hvalid.filter_range_mining, Nat.card_Icc]
  omega

end Params

namespace Table

/-- The least common multiple of the intervals. -/
def period (table : Table) : Nat :=
  (table.entries.map Params.interval).foldr Nat.lcm 1

theorem foldr_lcm_dvd_iff (intervals : List Nat) (n : Nat) :
    intervals.foldr Nat.lcm 1 ∣ n ↔ ∀ interval ∈ intervals, interval ∣ n := by
  induction intervals with
  | nil => simp
  | cons interval rest ih => rw [List.foldr_cons, Nat.lcm_dvd_iff, ih, List.forall_mem_cons]

theorem foldr_lcm_pos {intervals : List Nat} (hpos : ∀ interval ∈ intervals, 0 < interval) :
    0 < intervals.foldr Nat.lcm 1 := by
  induction intervals with
  | nil => exact Nat.one_pos
  | cons interval rest ih =>
      obtain ⟨hinterval, hrest⟩ := List.forall_mem_cons.mp hpos
      exact Nat.lcm_pos hinterval (ih hrest)

theorem period_dvd_iff (table : Table) (n : Nat) :
    table.period ∣ n ↔ ∀ p ∈ table.entries, p.interval ∣ n := by
  rw [period, foldr_lcm_dvd_iff, List.forall_mem_map]

theorem period_pos {table : Table} (hvalid : ∀ p ∈ table.entries, p.Valid) : 0 < table.period :=
  foldr_lcm_pos (List.forall_mem_map.mpr fun p hp => (hvalid p hp).interval_pos)

theorem mining_add_of_dvd {table : Table} {n : Nat} (hdvd : table.period ∣ n) (height : Nat) :
    table.mining (height + n) = table.mining height := by
  rw [Bool.eq_iff_iff, mining_eq_true_iff, mining_eq_true_iff]
  refine exists_congr fun p => and_congr_right fun hp => ?_
  rw [Params.mining_add_of_dvd ((table.period_dvd_iff n).mp hdvd p hp)]

end Table

/-- Parameters that keep their rules have a mining window that recurs with the interval and
takes up the same number of heights in every run of heights that is one interval long.  A
table is in a window when one of its entries is, and repeats itself after the least number
of heights that all of its intervals divide. -/
theorem density_of_mining_windows :
    (∀ p : Params, p.check = .ok () → ∀ height,
      p.mining (height + p.interval) = p.mining height ∧
      ((Finset.Ico height (height + p.interval)).filter fun h => p.mining h = true).card =
        p.windowLast - p.windowFirst + 1) ∧
    (∀ (table : Table) height,
      table.mining height = true ↔ ∃ p ∈ table.entries, p.InWindow height) ∧
    ∀ table : Table, (∀ p ∈ table.entries, p.check = .ok ()) →
      0 < table.period ∧
      (∀ n, table.period ∣ n ↔ ∀ p ∈ table.entries, p.interval ∣ n) ∧
      ∀ height, table.mining (height + table.period) = table.mining height := by
  refine ⟨?_, Table.mining_iff_inWindow, ?_⟩
  · intro p hcheck height
    have hvalid := p.check_eq_ok_iff.mp hcheck
    exact ⟨Params.mining_add_of_dvd (Nat.dvd_refl _) height, hvalid.card_mining height⟩
  · intro table hcheck
    have hvalid : ∀ p ∈ table.entries, p.Valid := fun p hp =>
      p.check_eq_ok_iff.mp (hcheck p hp)
    exact ⟨Table.period_pos hvalid, table.period_dvd_iff,
      Table.mining_add_of_dvd (Nat.dvd_refl _)⟩

/-- At height 750 a window is open already; what is missed of it comes back at the end of the
interval, so that 29 heights are counted.  A table of three kinds repeats itself after 720. -/
theorem density_of_mining_windows_open :
    let p := Preset.llmq20_85
    let table := Table.ofList [Preset.llmq3_60, Preset.llmq20_60, p]
    p.check = .ok () ∧
      ((Finset.Ico 750 (750 + 720)).filter fun h => p.mining h = true).card = 29 ∧
      table.period = 720 ∧ ∀ height, table.mining (height + 720) = table.mining height := by
  intro p table
  obtain ⟨hwindows, -, htables⟩ := density_of_mining_windows
  have hcheck : ∀ q ∈ table.entries, q.check = .ok () := by decide
  have hperiod : table.period = 720 := by decide
  obtain ⟨-, -, hrepeats⟩ := htables table hcheck
  rw [hperiod] at hrepeats
  exact ⟨rfl, (hwindows p rfl 750).2, hperiod, hrepeats⟩

end QuorumNode.Quorum
