import FreeRtosTsn.Scheduler.Lemmas.Ready
import FreeRtosTsn.Lib.Pacing

/-!
# The runs of a shaper

A credit based node is created, packets arrive and time passes, and rounds of the scheduler serve packets or find
the node not ready.
-/

namespace FreeRtosTsn.Scheduler

open Lib Kernel

/-- A packet that was served: the tick of the round, and its length in bytes. -/
structure Served where
  uxNow : Nat
  xDataLength : Nat
  deriving DecidableEq, Repr

def Served.bits (p : Served) : Nat := 8 * p.xDataLength

/-- The node that `pxNetworkNodeCreateCBS` and `xNetworkSchedulerLinkQueue` make. -/
def cbsLeaf (c : SchedulerCBS) (pxQueue : NetworkQueue) : NetworkNode :=
  .mk 1 { fnReady := .prvCBSReady c } (some pxQueue) [.null]

/-- The runs of the shaper `c`, with the packets served so far. A round in which the code stops is no step. -/
inductive Rounds (cfg : Config) (c : SchedulerCBS) (pxQueue : NetworkQueue) :
    NetworkNode → World → List Served → Prop
  | create {w w' : World} {pxNode node : NetworkNode} :
      (exec cfg (pxNetworkNodeCreateCBS c.id c.uxBandwidth c.uxMaxCredit)).run w = .ok pxNode w' →
      xNetworkSchedulerLinkQueue pxQueue pxNode = some node → Rounds cfg c pxQueue node w' []
  /-- Anything that does not go back in time or touch the shaper. -/
  | other {w w' : World} {node : NetworkNode} {log : List Served} : Rounds cfg c pxQueue node w log →
      w'.uxNextActivation c.id = w.uxNextActivation c.id → w.xTickCount ≤ w'.xTickCount →
      Rounds cfg c pxQueue node w' log
  | wait {w w' : World} {node : NetworkNode} {log : List Served} : Rounds cfg c pxQueue node w log →
      (exec cfg (pxNetworkSchedulerCall cfg node)).run w = .ok none w' → Rounds cfg c pxQueue node w' log
  | serve {w w₁ w₂ : World} {node : NetworkNode} {log : List Served} {q : NetworkQueue}
      {xItem : NetworkQueueItem} {b : BufId} : Rounds cfg c pxQueue node w log →
      (exec cfg (pxNetworkSchedulerCall cfg node)).run w = .ok (some q) w₁ →
      (exec cfg (xNetworkQueuePop q 0)).run w₁ = .ok (some xItem) w₂ → xItem.pxBuf = some b →
      Rounds cfg c pxQueue node w₂ (log ++ [⟨w.xTickCount, (w₂.bufs b).xDataLength⟩])

/-- The bits served in the window from `t₁` to `t₂`. -/
def bitsWithin (t₁ t₂ : Nat) (log : List Served) : Nat :=
  ((log.filter fun p => t₁ ≤ p.uxNow ∧ p.uxNow ≤ t₂).map Served.bits).sum

def largestBits (log : List Served) : Nat := (log.map Served.bits).foldr max 0

theorem Served.bits_le_largest {log : List Served} {p : Served} (h : p ∈ log) : p.bits ≤ largestBits log := by
  induction log with
  | nil => cases h
  | cons q log ih =>
      simp only [largestBits, List.map_cons, List.foldr_cons] at ih ⊢
      rcases List.mem_cons.mp h with rfl | h
      · exact Nat.le_max_left _ _
      · exact Nat.le_trans (ih h) (Nat.le_max_right _ _)

/-- Neither the credit nor the packet takes the tick of the round past the largest one. -/
def Served.NoWrap (cfg : Config) (c : SchedulerCBS) (p : Served) : Prop :=
  p.uxNow + c.uxMaxCredit * cfg.configTickRateHz / c.uxBandwidth < 2 ^ 32 ∧
    p.uxNow + p.bits * cfg.configTickRateHz / c.uxBandwidth < 2 ^ 32

instance (cfg : Config) (c : SchedulerCBS) (p : Served) : Decidable (p.NoWrap cfg c) :=
  inferInstanceAs (Decidable (_ ∧ _))

/-- The time on the wire is a whole number of milliseconds and of ticks, and its computation does not overflow. -/
def Served.Exact (cfg : Config) (c : SchedulerCBS) (p : Served) : Prop :=
  1000 * p.bits < 2 ^ 32 ∧ c.uxBandwidth ∣ 1000 * p.bits ∧
    1000 ∣ 1000 * p.bits / c.uxBandwidth * cfg.configTickRateHz

instance (cfg : Config) (c : SchedulerCBS) (p : Served) : Decidable (p.Exact cfg c) :=
  inferInstanceAs (Decidable (_ ∧ _ ∧ _))

/-! ## Polls of the ready function -/

/-- No tick and no sum that `prvCBSReady` computes at `w` wraps. -/
structure Fits (cfg : Config) (c : SchedulerCBS) (uxDelay : Nat) (w : World) : Prop where
  tick : w.xTickCount < 2 ^ 32
  credit : w.uxNextActivation c.id + uxCBSMaxDelay cfg c < 2 ^ 32
  charge : max (w.uxNextActivation c.id) (w.xTickCount - uxCBSMaxDelay cfg c) + uxDelay < 2 ^ 32

/-- The runs of `prvCBSReady` on a shaper that is created at `t₀`, with its answers so far. -/
inductive ReadyRun (cfg : Config) (c : SchedulerCBS) (pxQueue : NetworkQueue) (t₀ : Nat) : World → List Poll → Prop
  | create {w w' : World} {pxNode : NetworkNode} : w.xTickCount = t₀ → t₀ < 2 ^ 32 →
      (exec cfg (pxNetworkNodeCreateCBS c.id c.uxBandwidth c.uxMaxCredit)).run w = .ok pxNode w' →
      ReadyRun cfg c pxQueue t₀ w' []
  /-- Anything that does not go back in time or touch the shaper. -/
  | other {w w' : World} {polls : List Poll} : ReadyRun cfg c pxQueue t₀ w polls →
      w'.uxNextActivation c.id = w.uxNextActivation c.id → w.xTickCount ≤ w'.xTickCount →
      ReadyRun cfg c pxQueue t₀ w' polls
  | ready {w w' : World} {polls : List Poll} {b : BufId} : ReadyRun cfg c pxQueue t₀ w polls →
      nextPacket w (some pxQueue) = some b → Fits cfg c (uxCBSDelay cfg c (w.bufs b).xDataLength) w →
      (exec cfg (prvCBSReady cfg c (some pxQueue))).run w = .ok true w' →
      ReadyRun cfg c pxQueue t₀ w' (polls ++ [⟨w.xTickCount, some (uxCBSDelay cfg c (w.bufs b).xDataLength)⟩])
  | notReady {w w' : World} {polls : List Poll} : ReadyRun cfg c pxQueue t₀ w polls → w.xTickCount < 2 ^ 32 →
      (exec cfg (prvCBSReady cfg c (some pxQueue))).run w = .ok false w' →
      ReadyRun cfg c pxQueue t₀ w' (polls ++ [⟨w.xTickCount, none⟩])

end FreeRtosTsn.Scheduler
