import FreeRtosTsn.Scheduler.Arithmetic
import FreeRtosTsn.Lib.Clock

/-!
# When the numbers of a shaper are exact
-/

namespace FreeRtosTsn.Scheduler

open Lib Kernel

variable {cfg : Config} {c : SchedulerCBS}

theorem uxCBSDelay_eq {xDataLength : Nat} (h : 8000 * xDataLength < 2 ^ 32) :
    uxCBSDelay cfg c xDataLength = wrap32 (ticksOf cfg (msOf c (8 * xDataLength))) := by
  have hbits : xDataLength * 8 * 1000 = 1000 * (8 * xDataLength) := by omega
  rw [uxCBSDelay, pdMsToTicks, hbits, wrap32_of_lt (n := 1000 * (8 * xDataLength)) (by omega)]
  rfl

theorem uxCBSMaxDelay_eq : uxCBSMaxDelay cfg c = wrap32 (ticksOf cfg (msLeft c)) := by
  rw [uxCBSMaxDelay, pdMsToTicks, Nat.mul_comm c.uxMaxCredit]
  rfl

theorem ticksOf_mono {m n : Nat} (h : m ≤ n) : ticksOf cfg m ≤ ticksOf cfg n :=
  Nat.div_le_div_right (Nat.mul_le_mul_right _ h)

/-- More milliseconds are as many ticks exactly when the rest of them ends in the same tick. -/
theorem ticksOf_eq_iff {m n : Nat} (h : m ≤ n) :
    ticksOf cfg m = ticksOf cfg n ↔
      m * cfg.configTickRateHz % 1000 + (n - m) * cfg.configTickRateHz < 1000 := by
  have hsum : n * cfg.configTickRateHz = m * cfg.configTickRateHz + (n - m) * cfg.configTickRateHz := by
    rw [← Nat.add_mul, Nat.add_sub_cancel' h]
  rw [ticksOf, ticksOf, hsum]
  omega

theorem msLeft_le (c : SchedulerCBS) : msLeft c ≤ msOf c c.uxMaxCredit := Nat.div_le_div_right (Nat.mod_le _ _)

theorem CreditFits.uxCBSMaxDelay_eq (h : CreditFits cfg c) :
    uxCBSMaxDelay cfg c = ticksOf cfg (msOf c c.uxMaxCredit) := by
  have hhalf := h.half
  have hticks : ticksOf cfg (msLeft c) = ticksOf cfg (msOf c c.uxMaxCredit) := by
    rcases h.uxMaxCredit with hfit | hlost
    · rw [msLeft, Nat.mod_eq_of_lt hfit, msOf]
    · exact (ticksOf_eq_iff (msLeft_le c)).mpr hlost
  rw [Scheduler.uxCBSMaxDelay_eq, hticks, wrap32_of_lt (by omega)]

theorem CreditFits.computesExactly (h : CreditFits cfg c) {pxQueue : NetworkQueue} {w : World} {b : BufId}
    (hnext : nextPacket w (some pxQueue) = some b) (hlen : (w.bufs b).xDataLength ≤ 65535)
    (hfit : ticksOf cfg (msOf c (8 * (w.bufs b).xDataLength)) < 2 ^ 32) :
    ComputesExactly cfg c pxQueue (w.bufs b).xDataLength w where
  divides w' herror := by
    rw [run_prvCBSReady, hnext] at herror
    dsimp only at herror
    rw [if_neg h.uxBandwidth] at herror
    split at herror
    · cases herror
    · cases herror
  uxDelay := by rw [uxCBSDelay_eq (by omega), wrap32_of_lt hfit]
  uxMaxDelay := h.uxCBSMaxDelay_eq
  clamps hle hclamp := by
    have hhalf := h.half
    rw [← h.uxCBSMaxDelay_eq] at hhalf
    exact le_of_clamp (by omega) hle hclamp

/-! ## States with a packet -/

/-- The state when a shaper that is created at `t` has packet 0 in all queues. -/
def createdAt (env : Env) (c : SchedulerCBS) (t : Nat) : World :=
  { World.boot env with
    xTickCount := t
    uxNextActivation := Function.update (World.boot env).uxNextActivation c.id (wrap32 t)
    queues := fun _ => [⟨.eNetworkTxEvent, some 0, none, true⟩] }

theorem shaperReaches_createdAt (env : Env) (t : Nat) : ShaperReaches cfg c (createdAt env c t) :=
  .other (.create (w := { World.boot env with xTickCount := t }) rfl) rfl

theorem nextPacket_createdAt (env : Env) (pxQueue : NetworkQueue) (t : Nat) :
    nextPacket (createdAt env c t) (some pxQueue) = some 0 := rfl

theorem uxNextActivation_createdAt (env : Env) (t : Nat) : (createdAt env c t).uxNextActivation c.id = wrap32 t := by
  simp [createdAt]

/-- The queue that a shaper is asked about. -/
def someQueue : NetworkQueue := ⟨0, 0, .eIPTaskEvents, [], prvAlwaysTrue⟩

namespace ArithmeticExact

theorem at_createdAt (h : ArithmeticExact cfg c) (t : Nat) : ComputesExactly cfg c someQueue 0 (createdAt {} c t) :=
  h _ (shaperReaches_createdAt {} t) someQueue 0 (nextPacket_createdAt {} someQueue t) (Nat.zero_le _)

theorem uxBandwidth_ne_zero (h : ArithmeticExact cfg c) : c.uxBandwidth ≠ 0 := by
  intro hB
  refine (h.at_createdAt 0).divides (createdAt {} c 0) ?_
  rw [run_prvCBSReady, nextPacket_createdAt, if_pos (by simp [createdAt, wrap32])]
  exact if_pos hB

theorem ticksOf_eq (h : ArithmeticExact cfg c) : ticksOf cfg (msLeft c) = ticksOf cfg (msOf c c.uxMaxCredit) := by
  have hmax := (h.at_createdAt 0).uxMaxDelay
  have hle : ticksOf cfg (msLeft c) ≤ ticksOf cfg (msOf c c.uxMaxCredit) := ticksOf_mono (msLeft_le c)
  rw [uxCBSMaxDelay_eq] at hmax
  have hlt := wrap32_lt (ticksOf cfg (msLeft c))
  rwa [wrap32_of_lt (by omega)] at hmax

/-- A shaper that is asked right after it was created, a tick before its credit is over. -/
theorem half (h : ArithmeticExact cfg c) : ticksOf cfg (msOf c c.uxMaxCredit) ≤ 2 ^ 31 := by
  by_contra hover
  have hmax := (h.at_createdAt 0).uxMaxDelay
  have hlt : uxCBSMaxDelay cfg c < 2 ^ 32 := wrap32_lt _
  rw [← hmax] at hover
  have hexact := h.at_createdAt (uxCBSMaxDelay cfg c - 1)
  have hnow : wrap32 (createdAt {} c (uxCBSMaxDelay cfg c - 1)).xTickCount = uxCBSMaxDelay cfg c - 1 :=
    wrap32_of_lt (Nat.lt_of_le_of_lt (Nat.sub_le _ _) hlt)
  have hclamps := hexact.clamps
  rw [uxNextActivation_createdAt, hnow, wrap32_of_lt (by omega)] at hclamps
  have hle := hclamps (Nat.le_refl _) (clamp_wraps (by omega) hlt)
  omega

theorem creditFits (h : ArithmeticExact cfg c) : CreditFits cfg c where
  uxBandwidth := h.uxBandwidth_ne_zero
  uxMaxCredit := .inr ((ticksOf_eq_iff (msLeft_le c)).mp h.ticksOf_eq)
  half := h.half

end ArithmeticExact

end FreeRtosTsn.Scheduler
