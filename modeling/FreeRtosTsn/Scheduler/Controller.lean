import FreeRtosTsn.Scheduler.Tree
import FreeRtosTsn.Lib.Rely

/-!
# The controller task

The two nested loops of `prvTSNController`. Each body is a program that ends with the loop to go on with.
-/

namespace FreeRtosTsn.Scheduler

open Lib Kernel

def controllerTsnTaskBasePrio (cfg : Config) : Nat :=
  if cfg.tsnconfigControllerHasDynamicPrio then 1 else cfg.tsnconfigTsnControllerPriority

/-- The loop over the queue list, with the largest priority so far. -/
def prvMaxPriority : Nat → List NetworkQueue → P Nat
  | uxPriority, [] => return uxPriority
  | uxPriority, q :: qs => do
      if ← xNetworkQueueIsEmpty q then
        prvMaxPriority uxPriority qs
      else
        prvMaxPriority (if q.uxIPV > uxPriority then q.uxIPV else uxPriority) qs

def vTSNControllerComputePriority (cfg : Config) : P Unit := do
  let qs ← call .loadQueueList
  let uxPriority ← prvMaxPriority (controllerTsnTaskBasePrio cfg) qs
  call (.vTaskPrioritySet uxPriority)

def uxMaxSleep (cfg : Config) : Nat := pdMsToTicks cfg cfg.tsnconfigControllerMaxEventWait

inductive ControllerLoop
  | outer
  | inner
  deriving DecidableEq, Repr

/-- The macro evaluates its first argument again when it is the smaller one. -/
def configMin (a : P Nat) (b : Nat) : P Nat := do
  if (← a) < b then
    a
  else
    return b

/-- Sleeps until a notification or the next wakeup event. -/
def prvTSNControllerSleep (cfg : Config) : P ControllerLoop := do
  let uxTimeToSleep ← configMin uxNetworkQueueGetTicksUntilWakeup (uxMaxSleep cfg)
  let _ ← call (.ulTaskNotifyTake true uxTimeToSleep)
  return .inner

/-- Serves one item of the queue that was selected. -/
def prvTSNControllerServeQueue (cfg : Config) (pxQueue : NetworkQueue) : P ControllerLoop := do
  match ← xNetworkQueuePop pxQueue 0 with
  | none => return .inner
  | some xItem =>
      call (.serve pxQueue xItem)
      if cfg.tsnconfigControllerHasDynamicPrio then
        if ← xNetworkQueueIsEmpty pxQueue then
          vTSNControllerComputePriority cfg
      return .inner

/-- One round of the schedulers. -/
def prvTSNControllerServe (cfg : Config) (pxNetworkQueueRoot : NetworkNode) : P ControllerLoop := do
  match ← xNetworkQueueSchedule cfg pxNetworkQueueRoot with
  | none => return .outer
  | some pxQueue => prvTSNControllerServeQueue cfg pxQueue

/-- The ticks at `uxNow` until a wakeup event at `uxNextWakeup`. -/
def uxTicksUntil (uxNow uxNextWakeup : Nat) : Nat :=
  if uxNow < uxNextWakeup then sub32 uxNextWakeup uxNow else portMaxDelay

/-- The rest of the sleep once it is computed. -/
def prvTSNControllerWait (uxTimeToSleep : Nat) : P ControllerLoop :=
  .call (σ := Calls) (.ulTaskNotifyTake true uxTimeToSleep) fun _ => .ret .inner

/-- The rest of the sleep when the first evaluation gave `uxTicks`. -/
def prvTSNControllerResample (cfg : Config) (uxTicks : Nat) : P ControllerLoop :=
  if uxTicks < uxMaxSleep cfg then
    .call (σ := Calls) .xTaskGetTickCount fun uxNow => .call (σ := Calls) .loadNextWakeup fun uxNextWakeup =>
      prvTSNControllerWait (uxTicksUntil uxNow uxNextWakeup)
  else
    prvTSNControllerWait (uxMaxSleep cfg)

theorem uxNetworkQueueGetTicksUntilWakeup_eq :
    uxNetworkQueueGetTicksUntilWakeup = .call (σ := Calls) .xTaskGetTickCount fun uxNow =>
      .call (σ := Calls) .loadNextWakeup fun uxNextWakeup => .ret (uxTicksUntil uxNow uxNextWakeup) := by
  simp only [uxNetworkQueueGetTicksUntilWakeup, call_eq, Prog.call_bind, Prog.ret_bind, Prog.pure_eq, uxTicksUntil]
  refine congrArg _ (funext fun uxNow => congrArg _ (funext fun uxNextWakeup => ?_))
  split <;> rfl

theorem prvTSNControllerSleep_eq (cfg : Config) :
    prvTSNControllerSleep cfg = .call (σ := Calls) .xTaskGetTickCount fun uxNow =>
      .call (σ := Calls) .loadNextWakeup fun uxNextWakeup =>
        prvTSNControllerResample cfg (uxTicksUntil uxNow uxNextWakeup) := by
  simp only [prvTSNControllerSleep, configMin, uxNetworkQueueGetTicksUntilWakeup_eq, call_eq, Prog.call_bind,
    Prog.ret_bind, Prog.pure_eq, prvTSNControllerResample]
  refine congrArg _ (funext fun uxNow => congrArg _ (funext fun uxNextWakeup => ?_))
  by_cases h : uxTicksUntil uxNow uxNextWakeup < uxMaxSleep cfg
  · rw [if_pos h, if_pos h]
    rfl
  · rw [if_neg h, if_neg h]
    rfl

def prvTSNController (cfg : Config) (pxNetworkQueueRoot : NetworkNode) : ControllerLoop → P ControllerLoop
  | .outer => prvTSNControllerSleep cfg
  | .inner => prvTSNControllerServe cfg pxNetworkQueueRoot

end FreeRtosTsn.Scheduler
