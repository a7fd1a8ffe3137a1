import FreeRtosTsn.Timebase.Lemmas

/-!
# Main results on timespecs
-/

namespace FreeRtosTsn.Timebase

open Kernel

/-! ## Sums -/

/-- A lost carry hides that the sum does not fit. -/
theorem SumExact.not_carryLost {ts : Timespecs} {o p q : TimespecPtr} (hp : Normalized (ts p)) (hq : Normalized (ts q))
    (h : SumExact o p q ts) : ¬CarryLost (ts p) (ts q) := by
  obtain ⟨r, ts', hrun, -, -, hiff⟩ := h
  intro hlost
  rw [run_xTimespecSum] at hrun
  cases hrun
  have hend : nsEnd ≤ ns (ts p) + ns (ts q) := by
    obtain ⟨hsec, hsec', hnsec⟩ := hlost
    simp only [nsEnd, ns]
    omega
  exact ((sumPasses_eq_false_iff hp hq).mp (hiff.mpr hend)).2 hlost

/-- **Sums** are exact, and one that does not fit is reported unless the carry is lost. -/
theorem sum_exact_iff {ts : Timespecs} {o p q : TimespecPtr} (hp : Normalized (ts p)) (hq : Normalized (ts q)) :
    SumExact o p q ts ↔ ¬CarryLost (ts p) (ts q) := by
  constructor
  · exact SumExact.not_carryLost hp hq
  · intro hlost
    refine ⟨_, _, run_xTimespecSum o p q ts, ?_, ?_, ?_⟩
    · rw [Function.update_self]
      exact hp.sum hq
    · rw [Function.update_self, ns_sum hp hq]
    · rw [sumPasses_eq_false_iff hp hq, and_iff_left hlost]

/-- Half a second more than a second, written over its first operand. -/
theorem sum_exact_in_place :
    SumExact (.caller 0) (.caller 0) (.caller 1) fun p => if p = .caller 0 then ⟨1, 600000000⟩ else ⟨0, 900000000⟩ :=
  (sum_exact_iff (by decide) (by decide)).mpr (by decide)

/-- The sum of the last timespec with itself is reported to fit. -/
theorem sum_loses_carry :
    ¬SumExact (.caller 0) (.caller 1) (.caller 2) fun _ => ⟨4294967295, 999999999⟩ := by
  intro h
  exact absurd (h.not_carryLost (by decide) (by decide)) (by decide)

/-! ## Differences -/

/-- A difference below zero is reported to be one. -/
theorem DiffReports.ns_le {ts : Timespecs} {o p q : TimespecPtr} (hp : Normalized (ts p)) (hq : Normalized (ts q))
    (h : DiffReports o p q ts) : ns (ts q) ≤ ns (ts p) := by
  obtain ⟨c, r, ts', hcmp, hdiff, -, hfail⟩ := h
  rw [run_xTimespecCmp] at hcmp
  rw [run_xTimespecDiff] at hdiff
  cases hcmp
  cases hdiff
  by_contra hlt
  exact Bool.noConfusion (hfail ((timespecCmp_neg_iff hp hq).mpr (Nat.not_le.mp hlt)))

/-- **Differences** are exact and reported as they are, unless they go below zero. -/
theorem diff_reports_iff {ts : Timespecs} {o p q : TimespecPtr} (hp : Normalized (ts p)) (hq : Normalized (ts q)) :
    DiffReports o p q ts ↔ ns (ts q) ≤ ns (ts p) := by
  constructor
  · exact DiffReports.ns_le hp hq
  · intro hle
    refine ⟨_, _, _, run_xTimespecCmp p q ts, run_xTimespecDiff o p q ts, fun _ => ⟨rfl, ?_, ?_⟩, fun hneg => ?_⟩
    · rw [Function.update_self]
      exact hp.diff hq
    · rw [Function.update_self, ns_diff_add hp hq hle]
    · exact absurd ((timespecCmp_neg_iff hp hq).mp hneg) (Nat.not_lt.mpr hle)

/-- A difference that borrows a second, written over its second operand. -/
theorem diff_reports_borrow :
    DiffReports (.caller 1) (.caller 0) (.caller 1) fun p => if p = .caller 0 then ⟨3, 1⟩ else ⟨1, 999999999⟩ :=
  (diff_reports_iff (by decide) (by decide)).mpr (by decide)

/-- A nanosecond taken from nothing passes, and leaves the last timespec there is. -/
theorem diff_hides_borrow :
    ¬DiffReports (.caller 0) (.caller 1) (.caller 2) fun p => if p = .caller 2 then ⟨0, 1⟩ else ⟨0, 0⟩ := by
  intro h
  exact absurd (h.ns_le (by decide) (by decide)) (by decide)

/-! ## The algebra -/

/-- **The algebra of timespecs**, whichever pointers are equal. -/
theorem timespec_algebra {a b c : Timespec} (ha : Normalized a) (hb : Normalized b) (hc : Normalized c) :
    TimespecAlgebra a b c where
  sum_writes o p q ts hp hq := ⟨_, by rw [← hp, ← hq]; exact run_xTimespecSum o p q ts⟩
  diff_writes o p q ts hp hq := ⟨_, by rw [← hp, ← hq]; exact run_xTimespecDiff o p q ts⟩
  cmp_returns p q ts hp hq := by rw [← hp, ← hq]; exact run_xTimespecCmp p q ts
  sum_normalized := ha.sum hb
  diff_normalized := ha.diff hb
  diff_sum := ((ha.sum hb).diff hb).eq_of_digits ha (by
    rw [digits_diff (ha.sum hb) hb, digits_sum ha hb, add_sub_cancel_right])
  sum_diff := ((ha.diff hb).sum hb).eq_of_digits ha (by
    rw [digits_sum (ha.diff hb) hb, digits_diff ha hb, sub_add_cancel])
  sum_comm := (ha.sum hb).eq_of_digits (hb.sum ha) (by
    rw [digits_sum ha hb, digits_sum hb ha, add_comm])
  sum_assoc := ((ha.sum hb).sum hc).eq_of_digits (ha.sum (hb.sum hc)) (by
    rw [digits_sum (ha.sum hb) hc, digits_sum ha hb, digits_sum ha (hb.sum hc), digits_sum hb hc, add_assoc])
  cmp_sign := timespecCmp_eq_sign ha hb
  cmp_total := by
    rw [timespecCmp_le_zero_iff ha hb, timespecCmp_le_zero_iff hb ha]
    exact Nat.le_total _ _
  cmp_antisymm h h' :=
    ha.eq_of_ns hb (Nat.le_antisymm ((timespecCmp_le_zero_iff ha hb).mp h) ((timespecCmp_le_zero_iff hb ha).mp h'))
  cmp_trans h h' := by
    rw [timespecCmp_le_zero_iff ha hc]
    exact ((timespecCmp_le_zero_iff ha hb).mp h).trans ((timespecCmp_le_zero_iff hb hc).mp h')
  cmp_sum hac hbc := by
    rw [timespecCmp_eq_sign ha hb, timespecCmp_eq_sign (ha.sum hc) (hb.sum hc), ns_sum ha hc, ns_sum hb hc,
      Nat.mod_eq_of_lt hac, Nat.mod_eq_of_lt hbc, Nat.cast_add, Nat.cast_add, add_sub_add_right_eq_sub]

theorem timespec_algebra_wrapped :
    TimespecAlgebra ⟨4294967295, 999999999⟩ ⟨0, 1⟩ ⟨7, 5⟩ ∧ timespecSum ⟨4294967295, 999999999⟩ ⟨0, 1⟩ = ⟨0, 0⟩ :=
  ⟨timespec_algebra (by decide) (by decide) (by decide), by decide⟩

/-! ## Quotients -/

/-- What is written is too small by the parts that are left out. -/
theorem DivFloors.lostBy_lt {ts : Timespecs} {o p n : Nat} (h1 : 1 ≤ n) (hmax : n < 2 ^ 31)
    (hp : Normalized (ts (.caller p))) (h : DivFloors (.caller o) (.caller p) n ts) : lostBy n (ts (.caller p)) < n := by
  obtain ⟨-, ts₁, hrun₁, -, -, hlt⟩ := h
  obtain ⟨ts', hrun, -, hall⟩ := run_xTimespecDiv h1 hmax (.caller p) (o := .caller o) TimespecPtr.noConfusion hp
  rw [hrun] at hrun₁
  cases hrun₁
  rw [Nat.mul_succ] at hlt
  omega

/-- **Division** rounds down to a nanosecond unless the parts that it leaves out make one. -/
theorem div_floors_iff {ts : Timespecs} {o p n : Nat} (h1 : 1 ≤ n) (hmax : n < 2 ^ 31)
    (hp : Normalized (ts (.caller p))) : DivFloors (.caller o) (.caller p) n ts ↔ lostBy n (ts (.caller p)) < n := by
  have ho : TimespecPtr.caller o ≠ .xTemp := TimespecPtr.noConfusion
  obtain ⟨ts', hrun, hnorm, hall⟩ := run_xTimespecDiv h1 hmax (.caller p) ho hp
  have hn : (UInt32.ofNat n).toNat = n := by
    rw [UInt32.toNat_ofNat']
    omega
  constructor
  · exact DivFloors.lostBy_lt h1 hmax hp
  · intro hlost
    refine ⟨sumsFit hp (by rw [hn]; exact h1) ho ts, ts', hrun, hnorm, by omega, ?_⟩
    rw [Nat.mul_succ]
    omega

/-- A quotient that is exact. -/
theorem div_floors_half : DivFloors (.caller 0) (.caller 0) 2 fun _ => ⟨5, 1⟩ :=
  (div_floors_iff (by decide) (by decide) (by decide)).mpr (by decide)

/-- A seventh of six seconds is 857142857 ns; the sum of the six parts is 857142852. -/
theorem div_drifts : ¬DivFloors (.caller 0) (.caller 1) 7 fun _ => ⟨6, 0⟩ := by
  intro h
  exact absurd (h.lostBy_lt (by decide) (by decide) (by decide)) (by decide)

end FreeRtosTsn.Timebase
