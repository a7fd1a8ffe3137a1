import FreeRtosTsn.Scheduler.Lemmas.Ready

/-!
# The numbers of a shaper

The delays that `prvCBSReady` computes with 32 bits, compared with those of the integers.
-/

namespace FreeRtosTsn.Scheduler

open Lib Kernel

/-- Milliseconds in ticks, over the integers. -/
def ticksOf (cfg : Config) (ms : Nat) : Nat := ms * cfg.configTickRateHz / 1000

/-- The milliseconds that `bits` take, over the integers. -/
def msOf (c : SchedulerCBS) (bits : Nat) : Nat := 1000 * bits / c.uxBandwidth

/-- The states a shaper goes through, whatever the tick is when its ready function is called. -/
inductive ShaperReaches (cfg : Config) (c : SchedulerCBS) : World → Prop
  | create {w w' : World} {pxNode : NetworkNode} :
      (exec cfg (pxNetworkNodeCreateCBS c.id c.uxBandwidth c.uxMaxCredit)).run w = .ok pxNode w' → ShaperReaches cfg c w'
  /-- Anything that leaves the shaper alone. -/
  | other {w w' : World} : ShaperReaches cfg c w → w'.uxNextActivation c.id = w.uxNextActivation c.id →
      ShaperReaches cfg c w'
  | ready {w w' : World} {pxQueue : Option NetworkQueue} {bReady : Bool} : ShaperReaches cfg c w →
      (exec cfg (prvCBSReady cfg c pxQueue)).run w = .ok bReady w' → ShaperReaches cfg c w'

/-- `prvCBSReady` computes the numbers it means for a packet of `xDataLength` bytes at the head of `pxQueue`. -/
structure ComputesExactly (cfg : Config) (c : SchedulerCBS) (pxQueue : NetworkQueue) (xDataLength : Nat) (w : World) :
    Prop where
  divides : ∀ w', (exec cfg (prvCBSReady cfg c (some pxQueue))).run w ≠ .error .divZero w'
  uxDelay : uxCBSDelay cfg c xDataLength = ticksOf cfg (msOf c (8 * xDataLength))
  uxMaxDelay : uxCBSMaxDelay cfg c = ticksOf cfg (msOf c c.uxMaxCredit)
  /-- Where the clamp subtracts the credit from the tick. -/
  clamps : w.uxNextActivation c.id ≤ wrap32 w.xTickCount →
    wrap32 (w.uxNextActivation c.id + uxCBSMaxDelay cfg c) < wrap32 w.xTickCount →
    uxCBSMaxDelay cfg c ≤ wrap32 w.xTickCount

/-- The shaper computes exactly whenever its ready function finds a packet. -/
def ArithmeticExact (cfg : Config) (c : SchedulerCBS) : Prop :=
  ∀ w, ShaperReaches cfg c w → ∀ pxQueue b, nextPacket w (some pxQueue) = some b → (w.bufs b).xDataLength ≤ 65535 →
    ComputesExactly cfg c pxQueue (w.bufs b).xDataLength w

/-- The milliseconds that are left of the credit in 32 bits. -/
def msLeft (c : SchedulerCBS) : Nat := 1000 * c.uxMaxCredit % 2 ^ 32 / c.uxBandwidth

/-- The milliseconds that the product of 32 bits loses. -/
def msLost (c : SchedulerCBS) : Nat := msOf c c.uxMaxCredit - msLeft c

/-- The bandwidth is not zero, the credit in thousandths of a bit fits in 32 bits, and it is worth at most half of the
tick count. A credit that does not fit does no harm if what the product loses ends in the tick in which the rest of the
credit ends. -/
structure CreditFits (cfg : Config) (c : SchedulerCBS) : Prop where
  uxBandwidth : c.uxBandwidth ≠ 0
  uxMaxCredit : 1000 * c.uxMaxCredit < 2 ^ 32 ∨
    msLeft c * cfg.configTickRateHz % 1000 + msLost c * cfg.configTickRateHz < 1000
  half : ticksOf cfg (msOf c c.uxMaxCredit) ≤ 2 ^ 31

instance (cfg : Config) (c : SchedulerCBS) : Decidable (CreditFits cfg c) :=
  decidable_of_iff (c.uxBandwidth ≠ 0 ∧
      (1000 * c.uxMaxCredit < 2 ^ 32 ∨
        msLeft c * cfg.configTickRateHz % 1000 + msLost c * cfg.configTickRateHz < 1000) ∧
      ticksOf cfg (msOf c c.uxMaxCredit) ≤ 2 ^ 31)
    ⟨fun ⟨hB, hC, hhalf⟩ => ⟨hB, hC, hhalf⟩, fun ⟨hB, hC, hhalf⟩ => ⟨hB, hC, hhalf⟩⟩

end FreeRtosTsn.Scheduler
