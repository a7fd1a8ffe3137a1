import Mathlib.Order.Basic

/-!
# Clocks that wrap

Sums modulo `M` of times below `M`.
-/

namespace FreeRtosTsn.Lib

variable {M d : Nat}

/-- A time that lies more than `d` back lies so far back that `d` can be taken from the clock, also when the test for it
wraps, if `d` is at most half of the clock. -/
theorem le_of_clamp (hd : 2 * d ≤ M) {t now : Nat} (hle : t ≤ now) (hclamp : (t + d) % M < now) : d ≤ now := by
  rcases Nat.lt_or_ge (t + d) M with hfit | hwrap
  · rw [Nat.mod_eq_of_lt hfit] at hclamp
    omega
  · omega

/-- With more than half of the clock the test can wrap too early. -/
theorem clamp_wraps (hd : M < 2 * d) (hlt : d < M) : ((d - 1) + d) % M < d - 1 := by
  rw [Nat.mod_eq_sub_mod (by omega), Nat.mod_eq_of_lt (by omega)]
  omega

end FreeRtosTsn.Lib
