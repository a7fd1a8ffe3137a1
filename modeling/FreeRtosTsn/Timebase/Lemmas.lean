import FreeRtosTsn.Lib.Digits
import FreeRtosTsn.Timebase.Spec

/-!
# What the operations on timespecs write
-/

namespace FreeRtosTsn.Timebase

open Lib Kernel

variable {ts : Timespecs} {o p q : TimespecPtr} {a b c : Timespec}

/-! ## Running -/

@[simp] theorem run_loadTimespec (p : TimespecPtr) (ts : Timespecs) : (loadTimespec p).run ts = .ok (ts p) ts := rfl

@[simp] theorem run_storeSec (p : TimespecPtr) (x : UInt32) (ts : Timespecs) :
    (storeSec p x).run ts = .ok () (Function.update ts p { ts p with tvSec := x }) := rfl

@[simp] theorem run_storeNsec (p : TimespecPtr) (x : UInt32) (ts : Timespecs) :
    (storeNsec p x).run ts = .ok () (Function.update ts p { ts p with tvNsec := x }) := rfl

theorem run_xTimespecSum (o p q : TimespecPtr) (ts : Timespecs) :
    (xTimespecSum o p q).run ts =
      .ok (sumPasses (ts p) (ts q)) (Function.update ts o (timespecSum (ts p) (ts q))) := by
  have hend : ∀ {c : Prop} [Decidable c] (ts' : Timespecs),
      (if c then return false else return true : TimespecM Bool).run ts' = .ok (!decide c) ts' := by
    intro c _ ts'
    by_cases hc : c
    · simp [hc]
    · simp [hc]
  simp only [xTimespecSum, EStateM.run_bind, run_loadTimespec, run_storeSec, run_storeNsec, Function.update_self,
    Function.update_idem]
  by_cases hcarry : carries (ts p) (ts q)
  · rw [sumPasses, timespecSum, if_pos hcarry, if_pos (show _ ∨ _ from hcarry)]
    simp only [EStateM.run_bind, run_loadTimespec, run_storeSec, Function.update_self, Function.update_idem, hend]
  · rw [sumPasses, timespecSum, if_neg hcarry, if_neg (show ¬(_ ∨ _) from hcarry)]
    simp only [EStateM.run_bind, run_loadTimespec, Function.update_self, hend]

/-- The seconds of the result do not matter for what is read later. -/
theorem update_tvSec_tvNsec (ts : Timespecs) (o r : TimespecPtr) (x : UInt32) :
    (Function.update ts o { ts o with tvSec := x } r).tvNsec = (ts r).tvNsec := by
  by_cases h : r = o
  · subst h
    simp
  · simp [h]

theorem run_xTimespecDiff (o p q : TimespecPtr) (ts : Timespecs) :
    (xTimespecDiff o p q).run ts = .ok true (Function.update ts o (timespecDiff (ts p) (ts q))) := by
  simp -implicitDefEqProofs only [xTimespecDiff, EStateM.run_bind, run_loadTimespec, run_storeSec, update_tvSec_tvNsec]
  split
  · rename_i h
    simp -implicitDefEqProofs only [EStateM.run_bind, run_loadTimespec, run_storeNsec, update_tvSec_tvNsec, EStateM.run_pure,
      Function.update_self, Function.update_idem, timespecDiff, if_pos h]
  · rename_i h
    simp -implicitDefEqProofs only [EStateM.run_bind, run_loadTimespec, run_storeSec, run_storeNsec, update_tvSec_tvNsec,
      EStateM.run_pure, Function.update_self, Function.update_idem, timespecDiff, if_neg h]

theorem run_xTimespecCmp (p q : TimespecPtr) (ts : Timespecs) :
    (xTimespecCmp p q).run ts = .ok (timespecCmp (ts p) (ts q)) ts := by
  simp only [xTimespecCmp, timespecCmp, EStateM.run_bind, run_loadTimespec]
  repeat' split
  all_goals rfl

/-! ## The digits of a timespec -/

theorem nsInOneSec_toNat : nsInOneSec.toNat = 10 ^ 9 := rfl

/-- The seconds and the nanoseconds are digits. -/
def Normalized.digits (h : Normalized a) : Digits (2 ^ 32) (10 ^ 9) where
  hi := a.tvSec.toNat
  lo := a.tvNsec.toNat
  hi_lt := a.tvSec.toNat_lt
  lo_lt := h

theorem Normalized.digits_val (h : Normalized a) : h.digits.val = ns a := rfl

theorem Normalized.ns_lt (h : Normalized a) : ns a < nsEnd := h.digits.val_lt

theorem Normalized.eq_of_digits (ha : Normalized a) (hb : Normalized b) (h : ha.digits = hb.digits) : a = b := by
  obtain ⟨hsec, hnsec⟩ := Digits.ext_iff.mp h
  cases a
  cases b
  congr
  · exact UInt32.toNat.inj hsec
  · exact UInt32.toNat.inj hnsec

theorem sum_tvNsec_toNat (ha : Normalized a) (hb : Normalized b) :
    (timespecSum a b).tvNsec.toNat = (a.tvNsec.toNat + b.tvNsec.toNat) % 10 ^ 9 := by
  have hsum : (timespecSum a b).tvNsec.toNat = (a.tvNsec.toNat + b.tvNsec.toNat) % 2 ^ 32 % 10 ^ 9 := by
    rw [timespecSum, UInt32.toNat_mod, UInt32.toNat_add, nsInOneSec_toNat]
  simp only [Normalized] at ha hb
  have hlt : a.tvNsec.toNat + b.tvNsec.toNat < 2 ^ 32 := by omega
  rw [hsum, Nat.mod_eq_of_lt hlt]

/-- A carry is seen in the nanoseconds that were written. -/
theorem carries_iff (ha : Normalized a) (hb : Normalized b) : carries a b ↔ 10 ^ 9 ≤ a.tvNsec.toNat + b.tvNsec.toNat := by
  have h : carries a b ↔
      (timespecSum a b).tvNsec.toNat < a.tvNsec.toNat ∨ (timespecSum a b).tvNsec.toNat < b.tvNsec.toNat := by
    rw [← UInt32.lt_iff_toNat_lt, ← UInt32.lt_iff_toNat_lt]
    rfl
  rw [h, sum_tvNsec_toNat ha hb]
  simp only [Normalized] at ha hb
  omega

theorem sum_tvSec_toNat (ha : Normalized a) (hb : Normalized b) :
    (timespecSum a b).tvSec.toNat =
      (a.tvSec.toNat + b.tvSec.toNat + (a.tvNsec.toNat + b.tvNsec.toNat) / 10 ^ 9) % 2 ^ 32 := by
  have hcarries := carries_iff ha hb
  simp only [Normalized] at ha hb
  by_cases hc : carries a b
  · have hle := hcarries.mp hc
    rw [timespecSum, if_pos hc, UInt32.toNat_add, UInt32.toNat_add, UInt32.toNat_one]
    omega
  · have hlt := mt hcarries.mpr hc
    rw [timespecSum, if_neg hc, UInt32.toNat_add]
    omega

theorem Normalized.sum (ha : Normalized a) (hb : Normalized b) : Normalized (timespecSum a b) := by
  rw [Normalized, sum_tvNsec_toNat ha hb]
  exact Nat.mod_lt _ (by decide)

theorem digits_sum (ha : Normalized a) (hb : Normalized b) : (ha.sum hb).digits = ha.digits + hb.digits :=
  Digits.ext (sum_tvSec_toNat ha hb) (sum_tvNsec_toNat ha hb)

theorem diff_of_le (ha : Normalized a) (h : b.tvNsec.toNat ≤ a.tvNsec.toNat) :
    (timespecDiff a b).tvSec.toNat = (a.tvSec.toNat + (2 ^ 32 - b.tvSec.toNat)) % 2 ^ 32 ∧
      (timespecDiff a b).tvNsec.toNat = a.tvNsec.toNat - b.tvNsec.toNat := by
  have hge : a.tvNsec ≥ b.tvNsec := UInt32.le_iff_toNat_le.mpr h
  rw [timespecDiff, if_pos hge, UInt32.toNat_sub, UInt32.toNat_sub]
  simp only [Normalized] at ha
  have hsec := b.tvSec.toNat_lt
  omega

theorem diff_of_lt (hb : Normalized b) (h : a.tvNsec.toNat < b.tvNsec.toNat) :
    (timespecDiff a b).tvSec.toNat = (a.tvSec.toNat + (2 ^ 32 - b.tvSec.toNat) + (2 ^ 32 - 1)) % 2 ^ 32 ∧
      (timespecDiff a b).tvNsec.toNat = 10 ^ 9 - (b.tvNsec.toNat - a.tvNsec.toNat) := by
  have hlt : ¬a.tvNsec ≥ b.tvNsec := fun hge => Nat.not_le.mpr h (UInt32.le_iff_toNat_le.mp hge)
  rw [timespecDiff, if_neg hlt, UInt32.toNat_sub, UInt32.toNat_sub, UInt32.toNat_sub, UInt32.toNat_sub, UInt32.toNat_one,
    nsInOneSec_toNat]
  simp only [Normalized] at hb
  have hsec := b.tvSec.toNat_lt
  omega

theorem Normalized.diff (ha : Normalized a) (hb : Normalized b) : Normalized (timespecDiff a b) := by
  rcases Nat.lt_or_ge a.tvNsec.toNat b.tvNsec.toNat with h | h
  · rw [Normalized, (diff_of_lt hb h).2]
    omega
  · rw [Normalized, (diff_of_le ha h).2]
    exact Nat.lt_of_le_of_lt (Nat.sub_le _ _) ha

theorem digits_diff (ha : Normalized a) (hb : Normalized b) : (ha.diff hb).digits = ha.digits - hb.digits := by
  rcases Nat.lt_or_ge a.tvNsec.toNat b.tvNsec.toNat with h | h
  · have hsub := Digits.sub_of_lt (a := ha.digits) (b := hb.digits) h
    exact Digits.ext ((diff_of_lt hb h).1.trans hsub.1.symm) ((diff_of_lt hb h).2.trans hsub.2.symm)
  · have hsub := Digits.sub_of_le (a := ha.digits) (b := hb.digits) h
    exact Digits.ext ((diff_of_le ha h).1.trans hsub.1.symm) ((diff_of_le ha h).2.trans hsub.2.symm)

theorem ns_sum (ha : Normalized a) (hb : Normalized b) : ns (timespecSum a b) = (ns a + ns b) % nsEnd := by
  rw [← (ha.sum hb).digits_val, digits_sum ha hb, Digits.val_add]
  rfl

theorem ns_diff_add (ha : Normalized a) (hb : Normalized b) (h : ns b ≤ ns a) : ns (timespecDiff a b) + ns b = ns a := by
  have hval := Digits.val_sub_add (a := ha.digits) (b := hb.digits) h
  rwa [← digits_diff ha hb] at hval

/-- The call does not report a sum that it wrote as a smaller number when both numbers of seconds are at their end. -/
theorem sumPasses_eq_false_iff (ha : Normalized a) (hb : Normalized b) :
    sumPasses a b = false ↔ nsEnd ≤ ns a + ns b ∧ ¬CarryLost a b := by
  have hsec := sum_tvSec_toNat ha hb
  have ha' := a.tvSec.toNat_lt
  have hb' := b.tvSec.toNat_lt
  rw [sumPasses, Bool.not_eq_false', decide_eq_true_iff, UInt32.lt_iff_toNat_lt, UInt32.lt_iff_toNat_lt, hsec]
  simp only [Normalized] at ha hb
  simp only [CarryLost, ns, nsEnd]
  omega

/-! ## The order -/

theorem ns_lt_iff (ha : Normalized a) (hb : Normalized b) :
    ns a < ns b ↔ a.tvSec.toNat < b.tvSec.toNat ∨ a.tvSec.toNat = b.tvSec.toNat ∧ a.tvNsec.toNat < b.tvNsec.toNat :=
  Digits.val_lt_iff (a := ha.digits) (b := hb.digits)

theorem Normalized.eq_of_ns (ha : Normalized a) (hb : Normalized b) (h : ns a = ns b) : a = b :=
  ha.eq_of_digits hb (Digits.val_injective h)

theorem timespecCmp_eq_sign (ha : Normalized a) (hb : Normalized b) : timespecCmp a b = ((ns a : Int) - ns b).sign := by
  have hab := ns_lt_iff ha hb
  have hba := ns_lt_iff hb ha
  rw [← UInt32.lt_iff_toNat_lt, ← UInt32.lt_iff_toNat_lt, UInt32.toNat_inj] at hab hba
  rcases Nat.lt_trichotomy (ns a) (ns b) with h | h | h
  · rw [Int.sign_eq_neg_one_of_neg (by omega)]
    rcases hab.mp h with hsec | ⟨hsec, hnsec⟩
    · have hno : ¬a.tvSec > b.tvSec := UInt32.not_lt.mpr (UInt32.le_of_lt hsec)
      rw [timespecCmp, if_neg hno, if_neg (UInt32.ne_of_lt hsec)]
    · have hno : ¬a.tvNsec > b.tvNsec := UInt32.not_lt.mpr (UInt32.le_of_lt hnsec)
      have hirr : ¬a.tvSec > b.tvSec := by rw [hsec]; exact UInt32.lt_irrefl _
      rw [timespecCmp, if_neg hirr, if_pos hsec, if_neg hno, if_neg (UInt32.ne_of_lt hnsec)]
  · obtain rfl := ha.eq_of_ns hb h
    simp [timespecCmp]
  · rw [Int.sign_eq_one_of_pos (by omega)]
    rcases hba.mp h with hsec | ⟨hsec, hnsec⟩
    · rw [timespecCmp, if_pos hsec]
    · have hirr : ¬a.tvSec > b.tvSec := by rw [hsec]; exact UInt32.lt_irrefl _
      rw [timespecCmp, if_neg hirr, if_pos hsec.symm, if_pos hnsec]

theorem timespecCmp_le_zero_iff (ha : Normalized a) (hb : Normalized b) : timespecCmp a b ≤ 0 ↔ ns a ≤ ns b := by
  rw [timespecCmp_eq_sign ha hb, Int.sign_nonpos_iff]
  omega

theorem timespecCmp_neg_iff (ha : Normalized a) (hb : Normalized b) : timespecCmp a b < 0 ↔ ns a < ns b := by
  rw [timespecCmp_eq_sign ha hb, Int.sign_neg_iff]
  omega

/-! ## Division -/

theorem secondPart_normalized {n : UInt32} (h : 2 ≤ n.toNat) : Normalized (secondPart n) := by
  rw [Normalized, secondPart, UInt32.toNat_div, nsInOneSec_toNat]
  have hdiv : 10 ^ 9 / n.toNat ≤ 10 ^ 9 / 2 := Nat.div_le_div_left h (by decide)
  omega

theorem ns_secondPart (n : UInt32) : ns (secondPart n) = 10 ^ 9 / n.toNat := by
  rw [ns, secondPart, UInt32.toNat_div, nsInOneSec_toNat, UInt32.toNat_zero, Nat.zero_mul, Nat.zero_add]

/-- Each pass of the loop adds the part of a second, as long as the sum fits. -/
theorem run_prvAddParts {n : UInt32} (hn : 2 ≤ n.toNat) (ho : o ≠ .xTemp) (k : Nat) {ts : Timespecs}
    (h : Normalized (ts o)) (hfit : ns (ts o) + k * (10 ^ 9 / n.toNat) < nsEnd) :
    ∃ ts', (prvAddParts o n k).run ts = .ok () ts' ∧ Normalized (ts' o) ∧
      ns (ts' o) = ns (ts o) + k * (10 ^ 9 / n.toNat) := by
  induction k generalizing ts with
  | zero => exact ⟨ts, rfl, h, by rw [Nat.zero_mul, Nat.add_zero]⟩
  | succ k ih =>
      have hpart := secondPart_normalized hn
      rw [Nat.succ_mul] at hfit ⊢
      have hsum : ns (timespecSum (ts o) (secondPart n)) = ns (ts o) + 10 ^ 9 / n.toNat := by
        rw [ns_sum h hpart, ns_secondPart, Nat.mod_eq_of_lt (by omega)]
      -- the state after one pass
      obtain ⟨ts', hrun, hnorm, hns⟩ := @ih (Function.update (Function.update ts .xTemp (secondPart n)) o
        (timespecSum (ts o) (secondPart n))) (by rw [Function.update_self]; exact h.sum hpart)
        (by rw [Function.update_self, hsum]; omega)
      rw [Function.update_self, hsum] at hns
      refine ⟨ts', ?_, hnorm, by omega⟩
      rw [← hrun, prvAddParts]
      simp only [EStateM.run_bind, run_storeSec, run_storeNsec, run_xTimespecSum, Function.update_self, Function.update_idem,
        Function.update_of_ne ho]
      rfl

/-- The parts of the quotient before the loop. -/
def quotientParts (a : Timespec) (n : UInt32) : Timespec := ⟨a.tvSec / n, a.tvNsec / n⟩

theorem run_prvDivideParts (o : TimespecPtr) (a : Timespec) (n : UInt32) (ts : Timespecs) :
    (prvDivideParts o a n).run ts = .ok () (Function.update ts o (quotientParts a n)) := by
  simp only [prvDivideParts, EStateM.run_bind, run_storeSec, run_storeNsec, Function.update_self, Function.update_idem]
  rfl

theorem quotientParts_normalized (h : Normalized a) (n : UInt32) : Normalized (quotientParts a n) := by
  rw [Normalized, quotientParts, UInt32.toNat_div]
  exact Nat.lt_of_le_of_lt (Nat.div_le_self _ _) h

/-- The quotient that the call ends with, and what it lost. -/
theorem mul_quotient_add_lostBy (a : Timespec) (n : UInt32) :
    n.toNat * (ns (quotientParts a n) + a.tvSec.toNat % n.toNat * (10 ^ 9 / n.toNat)) + lostBy n.toNat a = ns a := by
  have hsec := Nat.div_add_mod a.tvSec.toNat n.toNat
  have hnsec := Nat.div_add_mod a.tvNsec.toNat n.toNat
  have hone := Nat.div_add_mod (10 ^ 9) n.toNat
  rw [ns, ns, lostBy, quotientParts, UInt32.toNat_div, UInt32.toNat_div]
  generalize a.tvSec.toNat / n.toNat = q at *
  generalize a.tvSec.toNat % n.toNat = s at *
  generalize a.tvNsec.toNat / n.toNat = p at *
  generalize a.tvNsec.toNat % n.toNat = e at *
  generalize (10 : Nat) ^ 9 / n.toNat = g at *
  generalize (10 : Nat) ^ 9 % n.toNat = d at *
  rw [← hsec, ← hnsec]
  linear_combination s * hone

theorem quotient_le (h : Normalized a) {n : UInt32} (hn : 1 ≤ n.toNat) {k : Nat} (hk : k ≤ a.tvSec.toNat % n.toNat) :
    ns (quotientParts a n) + k * (10 ^ 9 / n.toNat) < nsEnd := by
  have hall := mul_quotient_add_lostBy a n
  have hone := Nat.le_mul_of_pos_left (ns (quotientParts a n) + a.tvSec.toNat % n.toNat * (10 ^ 9 / n.toNat)) hn
  have hpasses : k * (10 ^ 9 / n.toNat) ≤ a.tvSec.toNat % n.toNat * (10 ^ 9 / n.toNat) := Nat.mul_le_mul_right _ hk
  have hend := h.ns_lt
  omega

/-- The state after `k` passes of the loop. -/
theorem run_quotient (h : Normalized a) {n : UInt32} (hn : 1 ≤ n.toNat) (ho : o ≠ .xTemp) {k : Nat}
    (hk : k ≤ a.tvSec.toNat % n.toNat) (ts : Timespecs) :
    ∃ ts', (do prvDivideParts o a n; prvAddParts o n k : TimespecM Unit).run ts = .ok () ts' ∧ Normalized (ts' o) ∧
      ns (ts' o) = ns (quotientParts a n) + k * (10 ^ 9 / n.toNat) := by
  have hnorm := quotientParts_normalized h n
  simp only [EStateM.run_bind, run_prvDivideParts]
  rcases Nat.lt_or_ge n.toNat 2 with hlt | h2
  · -- a second is not divided
    have hone : n.toNat = 1 := by omega
    rw [hone, Nat.mod_one] at hk
    obtain rfl : k = 0 := by omega
    exact ⟨_, rfl, by rw [Function.update_self]; exact hnorm, by rw [Function.update_self, Nat.zero_mul, Nat.add_zero]⟩
  · have hparts : (Function.update ts o (quotientParts a n)) o = quotientParts a n := Function.update_self o _ ts
    rw [← hparts] at hnorm
    obtain ⟨ts', hrun, hnorm', hns⟩ := run_prvAddParts h2 ho k hnorm (by rw [hparts]; exact quotient_le h hn hk)
    rw [hparts] at hns
    exact ⟨ts', hrun, hnorm', hns⟩

theorem sumsFit (h : Normalized a) {n : UInt32} (hn : 1 ≤ n.toNat) (ho : o ≠ .xTemp) (ts : Timespecs) : SumsFit o a n ts := by
  intro k hk
  rw [UInt32.toNat_mod] at hk
  obtain ⟨ts', hrun, -, hns⟩ := run_quotient h hn ho hk.le ts
  refine ⟨ts', hrun, ?_⟩
  have hfit := quotient_le h hn (Nat.succ_le_of_lt hk)
  rw [Nat.succ_mul] at hfit
  rw [hns, ns_secondPart]
  omega

theorem run_xTimespecDiv {n : Nat} (h1 : 1 ≤ n) (hmax : n < 2 ^ 31) (p : TimespecPtr) (ho : o ≠ .xTemp)
    (h : Normalized (ts p)) : ∃ ts', (xTimespecDiv o p n).run ts = .ok true ts' ∧ Normalized (ts' o) ∧
      n * ns (ts' o) + lostBy n (ts p) = ns (ts p) := by
  have hcast : UInt32.ofNat ((n : Int) % 2 ^ 32).toNat = UInt32.ofNat n := by
    congr 1
    omega
  have hn : (UInt32.ofNat n).toNat = n := by
    rw [UInt32.toNat_ofNat']
    omega
  have hne : UInt32.ofNat n ≠ 0 := by
    intro h0
    rw [h0, UInt32.toNat_zero] at hn
    omega
  obtain ⟨ts', hrun, hnorm, hns⟩ := run_quotient h (n := UInt32.ofNat n) (by rw [hn]; exact h1) ho (Nat.le_refl _) ts
  have hall := mul_quotient_add_lostBy (ts p) (UInt32.ofNat n)
  rw [← hns, hn] at hall
  refine ⟨ts', ?_, hnorm, hall⟩
  rw [← UInt32.toNat_mod] at hrun
  simp only [EStateM.run_bind, run_prvDivideParts] at hrun
  simp only [xTimespecDiv, hcast, if_neg hne, EStateM.run_bind, run_loadTimespec, EStateM.run_pure, run_prvDivideParts, hrun]

end FreeRtosTsn.Timebase
