import FreeRtosTsn.Scheduler.Calls

/-!
# Network queues

FreeRTOS_TSN_NetworkSchedulerQueue.c and the queue functions of FreeRTOS_TSN_NetworkScheduler.c.
-/

namespace FreeRtosTsn.Scheduler

open Lib Kernel

def prvAlwaysTrue : FilterFunction := fun _ => true

def uxNetworkQueuePacketsWaiting (pxQueue : NetworkQueue) : P Nat := call (.uxQueueMessagesWaiting pxQueue.xQueue)

def xNetworkQueueIsEmpty (pxQueue : NetworkQueue) : P Bool := do
  let n ← call (.uxQueueMessagesWaiting pxQueue.xQueue)
  return n == 0

def prvMatchQueuePolicy (pxItem : NetworkQueueItem) (pxQueue : NetworkQueue) : Bool :=
  match pxQueue.ePolicy with
  | .eSendRecv => pxItem.eEventType == .eNetworkTxEvent || pxItem.eEventType == .eNetworkRxEvent
  | .eSendOnly => pxItem.eEventType == .eNetworkTxEvent
  | .eRecvOnly => pxItem.eEventType == .eNetworkRxEvent
  | .eIPTaskEvents => true

/-! ## Pushing and popping -/

/-- Gives the notification that wakes the controller. -/
def xNotifyController : P Unit := call .xTaskNotifyGive

def xTSNControllerUpdatePriority (cfg : Config) (uxPriority : Nat) : P Bool := do
  if cfg.tsnconfigControllerHasDynamicPrio then
    let uxCurrent ← call .uxTaskPriorityGet
    if uxCurrent < uxPriority then
      call (.vTaskPrioritySet uxPriority)
      return true
  return false

def xNetworkQueuePush (cfg : Config) (pxQueue : NetworkQueue) (pxItem : NetworkQueueItem) (uxTimeout : Nat) :
    P Bool := do
  if ← call (.xQueueSendToBack pxQueue.xQueue pxItem uxTimeout) then
    if cfg.tsnconfigControllerHasDynamicPrio then
      let _ ← xTSNControllerUpdatePriority cfg pxQueue.uxIPV
    xNotifyController
    return true
  return false

def xNetworkQueuePop (pxQueue : NetworkQueue) (uxTimeout : Nat) : P (Option NetworkQueueItem) :=
  call (.xQueueReceive pxQueue.xQueue uxTimeout)

/-! ## Choosing a queue -/

/-- The loop over the queue list: `pxChosenQueue` is the best match so far. -/
def prvChooseQueue (pxItem : NetworkQueueItem) (x : Option (NetworkBufferDescriptor × Mem)) :
    Option NetworkQueue → List NetworkQueue → Option NetworkQueue
  | pxChosenQueue, [] => pxChosenQueue
  | pxChosenQueue, q :: qs =>
      if q.fnFilter x && prvMatchQueuePolicy pxItem q then
        match pxChosenQueue with
        | some c => prvChooseQueue pxItem x (if q.uxIPV ≤ c.uxIPV then some c else some q) qs
        | none => prvChooseQueue pxItem x (some q) qs
      else
        prvChooseQueue pxItem x pxChosenQueue qs

/-- What the filters see of an item whose buffer is `pxBuf`. -/
def bufferOf (w : World) (pxBuf : Option BufId) : Option (NetworkBufferDescriptor × Mem) :=
  pxBuf.map fun b => (w.bufs b, w.mem b)

def prvLoadBuf : Option BufId → P (Option (NetworkBufferDescriptor × Mem))
  | none => return none
  | some b => do
      let x ← call (.loadBuf b)
      return some x

def xNetworkQueueInsertPacketByFilter (cfg : Config) (pxItem : NetworkQueueItem) (uxTimeout : Nat) : P Bool := do
  let qs ← call .loadQueueList
  let x ← prvLoadBuf pxItem.pxBuf
  match prvChooseQueue pxItem x none qs with
  | some pxChosenQueue => xNetworkQueuePush cfg pxChosenQueue pxItem uxTimeout
  | none => return false

/-- `strncmp` over the length of `cName`, on strings without their terminators. -/
def prvSameName (cfg : Config) (pcName cName : List UInt8) : Bool :=
  pcName.take cfg.tsnconfigMaxQueueNameLen == cName.take cfg.tsnconfigMaxQueueNameLen

def pxNetworkQueueFindByName (cfg : Config) (pcName : List UInt8) (pxItem : NetworkQueueItem) :
    P (Option NetworkQueue) := do
  let qs ← call .loadQueueList
  return qs.find? fun q => prvMatchQueuePolicy pxItem q && prvSameName cfg pcName q.cName

def xNetworkQueueInsertPacketByName (cfg : Config) (pxItem : NetworkQueueItem) (pcQueueName : List UInt8)
    (uxTimeout : Nat) : P Bool := do
  match ← pxNetworkQueueFindByName cfg pcQueueName pxItem with
  | some pxQueue => xNetworkQueuePush cfg pxQueue pxItem uxTimeout
  | none => return false

end FreeRtosTsn.Scheduler
