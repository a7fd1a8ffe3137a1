import FreeRtosTsn.Scheduler.Queue

/-!
# The tree of schedulers

FreeRTOS_TSN_NetworkSchedulerBlock.c, BasicSchedulers.c and SchedCBS.c. The function pointers of a scheduler
range over the functions that these files install.
-/

namespace FreeRtosTsn.Scheduler

open Lib Kernel

/-! ## Nodes -/

/-- `struct xSCHEDULER_CBS`; `id` names its `uxNextActivation`, which changes. -/
structure SchedulerCBS where
  id : CbsId
  uxBandwidth : Nat
  uxMaxCredit : Nat
  deriving DecidableEq, Repr

inductive ReadyQueueFunction
  | prvAlwaysReady
  | prvCBSReady (pxSched : SchedulerCBS)
  deriving DecidableEq, Repr

inductive SelectQueueFunction
  | prvSelectFirst
  | prvPrioritySelect
  deriving DecidableEq, Repr

/-- `struct xSCHEDULER_GENERIC`. -/
structure SchedulerGeneric where
  fnSelect : SelectQueueFunction := .prvSelectFirst
  fnReady : ReadyQueueFunction := .prvAlwaysReady
  deriving DecidableEq, Repr

/-- A pointer to a `NetworkNode_t`: null, or a node with its slots. `ucNumChildren` is 8 bits wide, while
`pxNext` has as many slots as were asked for. -/
inductive NetworkNode
  | null
  | mk (ucNumChildren : Nat) (pvScheduler : SchedulerGeneric) (pxQueue : Option NetworkQueue)
      (pxNext : List NetworkNode)

def pxNetworkNodeCreate (uxNumChildren : Nat) (pvScheduler : SchedulerGeneric) : NetworkNode :=
  .mk (uxNumChildren % 256) pvScheduler none (List.replicate uxNumChildren .null)

def pxNetworkNodeCreateFIFO : NetworkNode := pxNetworkNodeCreate 1 {}

def pxNetworkNodeCreatePrio (uxNumChildren : Nat) : NetworkNode :=
  pxNetworkNodeCreate uxNumChildren { fnSelect := .prvPrioritySelect }

/-- Also initialises `uxNextActivation` to the current tick. -/
def pxNetworkNodeCreateCBS (id : CbsId) (uxBandwidth uxMaxCredit : Nat) : P NetworkNode := do
  call (.storeNextActivation id (← call .xTaskGetTickCount))
  return pxNetworkNodeCreate 1 { fnReady := .prvCBSReady ⟨id, uxBandwidth, uxMaxCredit⟩ }

/-- `pdFAIL` is `none`. -/
def xNetworkSchedulerLinkQueue (pxQueue : NetworkQueue) : NetworkNode → Option NetworkNode
  | .null => none
  | .mk n s _ next => some (.mk n s (some pxQueue) next)

def xNetworkSchedulerLinkChild (pxChild : NetworkNode) (uxPosition : Nat) : NetworkNode → Option NetworkNode
  | .null => none
  | .mk n s pxQueue next =>
      if uxPosition < n ∧ pxQueue.isNone then some (.mk n s pxQueue (next.set uxPosition pxChild)) else none

/-! ## Wakeup events -/

def uxNetworkQueueGetTicksUntilWakeup : P Nat := do
  let uxNow ← call .xTaskGetTickCount
  let uxNextWakeup ← call .loadNextWakeup
  if uxNow < uxNextWakeup then
    return sub32 uxNextWakeup uxNow
  else
    return portMaxDelay

def vNetworkQueueAddWakeupEvent (uxTime : Nat) : P Unit := do
  let uxNow ← call .xTaskGetTickCount
  let uxNextWakeup ← call .loadNextWakeup
  if uxTime < uxNextWakeup ∨ uxNextWakeup ≤ uxNow then
    call (.storeNextWakeup uxTime)

/-! ## The credit based scheduler -/

def pxPeekNextPacket (pxQueue : Option NetworkQueue) : P (Option BufId) := do
  let q ← deref pxQueue
  match ← call (.xQueuePeek q.xQueue) with
  | some xItem => return xItem.pxBuf
  | none => return none

/-- Ticks that the packet is charged for. -/
def uxCBSDelay (cfg : Config) (pxSched : SchedulerCBS) (xDataLength : Nat) : Nat :=
  pdMsToTicks cfg (wrap32 (xDataLength * 8 * 1000) / pxSched.uxBandwidth)

/-- Ticks that the credit is worth. -/
def uxCBSMaxDelay (cfg : Config) (pxSched : SchedulerCBS) : Nat :=
  pdMsToTicks cfg (wrap32 (pxSched.uxMaxCredit * 1000) / pxSched.uxBandwidth)

/-- The activation after a packet is served at `uxNow`: the clamp to the credit, then the charge. -/
def uxCBSCharge (uxNextActivation uxNow uxMaxDelay uxDelay : Nat) : Nat :=
  wrap32 ((if wrap32 (uxNextActivation + uxMaxDelay) < uxNow then sub32 uxNow uxMaxDelay else uxNextActivation) +
    uxDelay)

def prvCBSReady (cfg : Config) (pxSched : SchedulerCBS) (pxQueue : Option NetworkQueue) : P Bool := do
  let uxNow ← call .xTaskGetTickCount
  let uxNextActivation ← call (.loadNextActivation pxSched.id)
  if uxNextActivation ≤ uxNow then
    let pxNextPacket ← deref (← pxPeekNextPacket pxQueue)
    let (d, _) ← call (.loadBuf pxNextPacket)
    if pxSched.uxBandwidth = 0 then
      fault .divZero
    else
      call (.storeNextActivation pxSched.id (uxCBSCharge uxNextActivation uxNow (uxCBSMaxDelay cfg pxSched)
        (uxCBSDelay cfg pxSched d.xDataLength)))
      return true
  else
    vNetworkQueueAddWakeupEvent uxNextActivation
    return false

/-! ## The traversal -/

def netschedCallReadyFromNode (cfg : Config) (pvScheduler : SchedulerGeneric) (pxQueue : Option NetworkQueue) :
    P Bool :=
  match pvScheduler.fnReady with
  | .prvAlwaysReady => return true
  | .prvCBSReady pxSched => prvCBSReady cfg pxSched pxQueue

/-- A terminal node yields its queue unless it is empty. -/
def prvCallTerminal (pxQueue : NetworkQueue) : P (Option NetworkQueue) := do
  if ← xNetworkQueueIsEmpty pxQueue then
    return none
  else
    return some pxQueue

mutual
def pxNetworkSchedulerCall (cfg : Config) : NetworkNode → P (Option NetworkQueue)
  | .null => fault .null
  | .mk ucNumChildren pvScheduler pxQueue pxNext => do
      if ← netschedCallReadyFromNode cfg pvScheduler pxQueue then
        match pxQueue with
        | some q => prvCallTerminal q
        | none =>
            match pvScheduler.fnSelect with
            | .prvSelectFirst => prvSelectFirst cfg pxNext
            | .prvPrioritySelect => prvPrioritySelect cfg ucNumChildren pxNext
      else
        return none

def prvSelectFirst (cfg : Config) : List NetworkNode → P (Option NetworkQueue)
  | [] => fault .heap
  | pxChild :: _ => pxNetworkSchedulerCall cfg pxChild

/-- The loop over the children that are left. -/
def prvPrioritySelect (cfg : Config) : Nat → List NetworkNode → P (Option NetworkQueue)
  | 0, _ => return none
  | _ + 1, [] => fault .heap
  | n + 1, pxChild :: pxNext => do
      match ← pxNetworkSchedulerCall cfg pxChild with
      | some q => return some q
      | none => prvPrioritySelect cfg n pxNext
end

/-- A null root has no queue to schedule. -/
def xNetworkQueueSchedule (cfg : Config) : NetworkNode → P (Option NetworkQueue)
  | .null => return none
  | pxNetworkQueueRoot => pxNetworkSchedulerCall cfg pxNetworkQueueRoot

/-! ## Well-formed trees -/

mutual
def NetworkNode.linkedQueues : NetworkNode → List NetworkQueue
  | .null => []
  | .mk _ _ (some q) _ => [q]
  | .mk _ _ none pxNext => linkedQueuesList pxNext

def linkedQueuesList : List NetworkNode → List NetworkQueue
  | [] => []
  | n :: ns => n.linkedQueues ++ linkedQueuesList ns
end

mutual
def NetworkNode.cbsNodes : NetworkNode → List SchedulerCBS
  | .null => []
  | .mk _ s (some _) _ => match s.fnReady with
      | .prvAlwaysReady => []
      | .prvCBSReady c => [c]
  | .mk _ _ none pxNext => cbsNodesList pxNext

def cbsNodesList : List NetworkNode → List SchedulerCBS
  | [] => []
  | n :: ns => n.cbsNodes ++ cbsNodesList ns
end

mutual
/-- A tree of Prio and FIFO nodes with every slot linked, where a node that a queue is linked to may also be a
credit based scheduler. -/
def NetworkNode.WellFormed : NetworkNode → Prop
  | .null => False
  | .mk _ _ (some _) _ => True
  | .mk n s none pxNext => n = pxNext.length ∧ s.fnReady = .prvAlwaysReady ∧
      (s.fnSelect = .prvSelectFirst → pxNext.length = 1) ∧ WellFormedList pxNext

def WellFormedList : List NetworkNode → Prop
  | [] => True
  | n :: ns => n.WellFormed ∧ WellFormedList ns
end

theorem xNetworkQueueSchedule_eq {cfg : Config} {root : NetworkNode} (h : root.WellFormed) :
    xNetworkQueueSchedule cfg root = pxNetworkSchedulerCall cfg root := by
  cases root with
  | null => exact h.elim
  | mk => rfl

end FreeRtosTsn.Scheduler
