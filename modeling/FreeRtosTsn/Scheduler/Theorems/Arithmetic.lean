import FreeRtosTsn.Scheduler.Lemmas.Arithmetic

/-!
# Main result on the numbers of a shaper
-/

namespace FreeRtosTsn.Scheduler

open Lib Kernel

/-- **The arithmetic of a shaper** is exact if and only if its bandwidth and credit fit, for packets whose delay is a tick
value. -/
theorem arithmetic_exact_iff {cfg : Config} {c : SchedulerCBS}
    (hfit : ∀ xDataLength ≤ 65535, ticksOf cfg (msOf c (8 * xDataLength)) < 2 ^ 32) :
    ArithmeticExact cfg c ↔ CreditFits cfg c := by
  constructor
  · intro h
    exact h.creditFits
  · intro h w _ pxQueue b hnext hlen
    exact h.computesExactly hnext hlen (hfit _ hlen)

/-- A burst of 12000 bits at 1 Mbit/s. -/
theorem arithmetic_exact_burst : ArithmeticExact {} ⟨0, 1000000, 12000⟩ :=
  (arithmetic_exact_iff fun xDataLength hlen => by
    simp only [ticksOf, msOf]
    omega).mpr (by decide)

/-- A credit of 4294968 bits is one of 704 thousandths of a bit. -/
theorem credit_wraps : ¬ArithmeticExact {} ⟨0, 1000000, 4294968⟩ := by
  intro h
  exact absurd h.ticksOf_eq (by decide)

end FreeRtosTsn.Scheduler
