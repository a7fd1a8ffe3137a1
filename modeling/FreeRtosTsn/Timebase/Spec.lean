import FreeRtosTsn.Timebase.Timespec

/-!
# Timespecs as numbers
-/

namespace FreeRtosTsn.Timebase

open Kernel

/-! ## What is written -/

/-- The test for a carry, on the nanoseconds that were written. -/
def carries (a b : Timespec) : Prop :=
  (a.tvNsec + b.tvNsec) % nsInOneSec < a.tvNsec ∨ (a.tvNsec + b.tvNsec) % nsInOneSec < b.tvNsec

instance (a b : Timespec) : Decidable (carries a b) := inferInstanceAs (Decidable (_ ∨ _))

def timespecSum (a b : Timespec) : Timespec where
  tvSec := if carries a b then a.tvSec + b.tvSec + 1 else a.tvSec + b.tvSec
  tvNsec := (a.tvNsec + b.tvNsec) % nsInOneSec

def sumPasses (a b : Timespec) : Bool :=
  !decide ((timespecSum a b).tvSec < a.tvSec ∨ (timespecSum a b).tvSec < b.tvSec)

def timespecDiff (a b : Timespec) : Timespec :=
  if a.tvNsec ≥ b.tvNsec then ⟨a.tvSec - b.tvSec, a.tvNsec - b.tvNsec⟩
  else ⟨a.tvSec - b.tvSec - 1, nsInOneSec - (b.tvNsec - a.tvNsec)⟩

def timespecCmp (a b : Timespec) : Int :=
  if a.tvSec > b.tvSec then 1
  else if a.tvSec = b.tvSec then if a.tvNsec > b.tvNsec then 1 else if a.tvNsec = b.tvNsec then 0 else -1
  else -1

/-- What a call writes, whichever of its pointers are equal. -/
def Writes (f : TimespecPtr → TimespecPtr → TimespecPtr → TimespecM Bool) (a b r : Timespec) : Prop :=
  ∀ o p q ts, ts p = a → ts q = b → ∃ x, (f o p q).run ts = .ok x (Function.update ts o r)

/-! ## Nanoseconds -/

/-- The nanoseconds of a timespec are less than a second. -/
def Normalized (a : Timespec) : Prop := a.tvNsec.toNat < 10 ^ 9

instance (a : Timespec) : Decidable (Normalized a) := inferInstanceAs (Decidable (_ < _))

def ns (a : Timespec) : Nat := a.tvSec.toNat * 10 ^ 9 + a.tvNsec.toNat

/-- The first number of nanoseconds that no timespec has. -/
def nsEnd : Nat := 2 ^ 32 * 10 ^ 9

/-! ## Sums -/

/-- The sum is written modulo `nsEnd`, and the result tells whether it fits. -/
def SumExact (o p q : TimespecPtr) (ts : Timespecs) : Prop :=
  ∃ r ts', (xTimespecSum o p q).run ts = .ok r ts' ∧ Normalized (ts' o) ∧
    ns (ts' o) = (ns (ts p) + ns (ts q)) % nsEnd ∧ (r = false ↔ nsEnd ≤ ns (ts p) + ns (ts q))

/-- Both have the last second there is, and their nanoseconds make another one. -/
def CarryLost (a b : Timespec) : Prop :=
  a.tvSec.toNat = 2 ^ 32 - 1 ∧ b.tvSec.toNat = 2 ^ 32 - 1 ∧ 10 ^ 9 ≤ a.tvNsec.toNat + b.tvNsec.toNat

instance (a b : Timespec) : Decidable (CarryLost a b) := inferInstanceAs (Decidable (_ ∧ _))

/-! ## Differences -/

/-- The comparison tells whether the difference is one of timespecs; the result reports it, and a difference is exact. -/
def DiffReports (o p q : TimespecPtr) (ts : Timespecs) : Prop :=
  ∃ c r ts', (xTimespecCmp p q).run ts = .ok c ts ∧ (xTimespecDiff o p q).run ts = .ok r ts' ∧
    (0 ≤ c → r = true ∧ Normalized (ts' o) ∧ ns (ts' o) + ns (ts q) = ns (ts p)) ∧ (c < 0 → r = false)

/-! ## The algebra -/

/-- Timespecs are a group, and their order is that of their nanoseconds. -/
structure TimespecAlgebra (a b c : Timespec) : Prop where
  sum_writes : Writes xTimespecSum a b (timespecSum a b)
  diff_writes : Writes xTimespecDiff a b (timespecDiff a b)
  cmp_returns : ∀ p q ts, ts p = a → ts q = b → (xTimespecCmp p q).run ts = .ok (timespecCmp a b) ts
  sum_normalized : Normalized (timespecSum a b)
  diff_normalized : Normalized (timespecDiff a b)
  diff_sum : timespecDiff (timespecSum a b) b = a
  sum_diff : timespecSum (timespecDiff a b) b = a
  sum_comm : timespecSum a b = timespecSum b a
  sum_assoc : timespecSum (timespecSum a b) c = timespecSum a (timespecSum b c)
  cmp_sign : timespecCmp a b = ((ns a : Int) - ns b).sign
  cmp_total : timespecCmp a b ≤ 0 ∨ timespecCmp b a ≤ 0
  cmp_antisymm : timespecCmp a b ≤ 0 → timespecCmp b a ≤ 0 → a = b
  cmp_trans : timespecCmp a b ≤ 0 → timespecCmp b c ≤ 0 → timespecCmp a c ≤ 0
  cmp_sum : ns a + ns c < nsEnd → ns b + ns c < nsEnd →
    timespecCmp a b = timespecCmp (timespecSum a c) (timespecSum b c)

/-! ## Quotients -/

/-- A second divided by `n`, rounded down. -/
def secondPart (n : UInt32) : Timespec := ⟨0, nsInOneSec / n⟩

/-- None of the sums of the loop overflows: each pass `k` adds to what the passes before it left. -/
def SumsFit (o : TimespecPtr) (a : Timespec) (n : UInt32) (ts : Timespecs) : Prop :=
  ∀ k < (a.tvSec % n).toNat, ∃ ts', (do prvDivideParts o a n; prvAddParts o n k : TimespecM Unit).run ts = .ok () ts' ∧
    ns (ts' o) + ns (secondPart n) < nsEnd

/-- The call ends with the quotient rounded down. -/
def DivFloors (o p : TimespecPtr) (n : Nat) (ts : Timespecs) : Prop :=
  SumsFit o (ts p) (UInt32.ofNat n) ts ∧ ∃ ts', (xTimespecDiv o p n).run ts = .ok true ts' ∧ Normalized (ts' o) ∧
    n * ns (ts' o) ≤ ns (ts p) ∧ ns (ts p) < n * (ns (ts' o) + 1)

/-- What the quotient of `n` loses: with each second that is left over, and with the nanoseconds. -/
def lostBy (n : Nat) (a : Timespec) : Nat := a.tvSec.toNat % n * (10 ^ 9 % n) + a.tvNsec.toNat % n

end FreeRtosTsn.Timebase
