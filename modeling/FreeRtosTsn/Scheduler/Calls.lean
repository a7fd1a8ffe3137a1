import FreeRtosTsn.Lib.Prog
import FreeRtosTsn.Kernel.World

/-!
# The calls of the scheduler and the controller

Each call is one atomic step: a call to the FreeRTOS kernel, or an access to a variable that tasks share.
-/

namespace FreeRtosTsn.Scheduler

open Lib Kernel

inductive Call
  | xTaskGetTickCount
  | uxQueueMessagesWaiting (q : QueueHandle)
  | xQueuePeek (q : QueueHandle)
  | xQueueReceive (q : QueueHandle) (uxTimeout : Nat)
  | xQueueSendToBack (q : QueueHandle) (pxItem : NetworkQueueItem) (uxTimeout : Nat)
  | xTaskNotifyGive
  | ulTaskNotifyTake (xClearCountOnExit : Bool) (uxTimeout : Nat)
  | uxTaskPriorityGet
  | vTaskPrioritySet (uxPriority : Nat)
  | loadNextActivation (id : CbsId)
  | storeNextActivation (id : CbsId) (uxTime : Nat)
  | loadNextWakeup
  | storeNextWakeup (uxTime : Nat)
  | loadQueueList
  | loadBuf (b : BufId)
  /-- The controller sends or delivers a popped item. -/
  | serve (pxQueue : NetworkQueue) (pxItem : NetworkQueueItem)
  | fault (f : Fault)

@[reducible] def Call.Res : Call → Type
  | .xTaskGetTickCount => Nat
  | .uxQueueMessagesWaiting _ => Nat
  | .xQueuePeek _ => Option NetworkQueueItem
  | .xQueueReceive _ _ => Option NetworkQueueItem
  | .xQueueSendToBack _ _ _ => Bool
  | .xTaskNotifyGive => Unit
  | .ulTaskNotifyTake _ _ => Nat
  | .uxTaskPriorityGet => Nat
  | .vTaskPrioritySet _ => Unit
  | .loadNextActivation _ => Nat
  | .storeNextActivation _ _ => Unit
  | .loadNextWakeup => Nat
  | .storeNextWakeup _ => Unit
  | .loadQueueList => List NetworkQueue
  | .loadBuf _ => NetworkBufferDescriptor × Mem
  | .serve _ _ => Unit
  | .fault _ => Empty

abbrev Calls : Sig := ⟨Call, Call.Res⟩

abbrev P := Prog Calls

def call (o : Call) : P (Call.Res o) := Prog.op (σ := Calls) o

@[simp] theorem call_eq (o : Call) : call o = .call (σ := Calls) o .ret := rfl

def fault {α : Type} (f : Fault) : P α := .call (σ := Calls) (.fault f) fun e => nomatch e

@[simp] theorem fault_bind {α β : Type} (f : Fault) (g : α → P β) : ((fault f : P α) >>= g) = fault f :=
  congrArg (Prog.call (σ := Calls) (.fault f)) (funext fun e => nomatch e)

/-- A pointer that is dereferenced must not be null. -/
def deref {α : Type} : Option α → P α
  | none => fault .null
  | some a => return a

/-- The effect of a call. A send finds the queue full for the whole of its timeout, or succeeds. -/
def answer (cfg : Config) : (o : Call) → M (Call.Res o)
  | .xTaskGetTickCount => return wrap32 (← get).xTickCount
  | .uxQueueMessagesWaiting q => return ((← get).queues q).length
  | .xQueuePeek q => return ((← get).queues q).head?
  | .xQueueReceive q _ => do
      let w ← get
      set { w with queues := Function.update w.queues q (w.queues q).tail }
      return (w.queues q).head?
  | .xQueueSendToBack q pxItem _ => do
      let w ← get
      if (w.queues q).length < cfg.ipconfigEventQueueLength then
        set { w with queues := Function.update w.queues q (w.queues q ++ [pxItem]) }
        return true
      else
        return false
  | .xTaskNotifyGive => modify fun w => { w with ulNotifiedValue := wrap32 (w.ulNotifiedValue + 1) }
  | .ulTaskNotifyTake xClearCountOnExit _ => do
      let w ← get
      set { w with ulNotifiedValue := if xClearCountOnExit then 0 else w.ulNotifiedValue - 1 }
      return w.ulNotifiedValue
  | .uxTaskPriorityGet => return (← get).uxPriority
  | .vTaskPrioritySet uxPriority => modify fun w => { w with uxPriority := uxPriority }
  | .loadNextActivation id => return (← get).uxNextActivation id
  | .storeNextActivation id uxTime =>
      modify fun w => { w with uxNextActivation := Function.update w.uxNextActivation id uxTime }
  | .loadNextWakeup => return (← get).uxNextWakeup
  | .storeNextWakeup uxTime => modify fun w => { w with uxNextWakeup := uxTime }
  | .loadQueueList => return (← get).pxNetworkQueueList
  | .loadBuf b => return ((← get).bufs b, (← get).mem b)
  | .serve _ _ => return ()
  | .fault f => throw f

/-- The answer to a call made in `w`, and the state after it. -/
def effect (cfg : Config) (o : Call) (w : World) : EStateM.Result Fault World (Call.Res o) := (answer cfg o).run w

/-- Runs code of the scheduler with no other task in between. -/
def exec {α : Type} (cfg : Config) (p : P α) : M α := p.interp (answer cfg)

@[simp] theorem exec_ret {α : Type} (cfg : Config) (a : α) (w : World) :
    (exec cfg (.ret a)).run w = .ok a w := rfl

@[simp] theorem exec_call {α : Type} (cfg : Config) (o : Call) (k : Call.Res o → P α) (w : World) :
    (exec cfg (.call (σ := Calls) o k)).run w =
      match effect cfg o w with
      | .ok r w' => (exec cfg (k r)).run w'
      | .error e w' => .error e w' := by
  rw [exec, Prog.interp_call, EStateM.run_bind, effect]
  cases (answer cfg o).run w <;> rfl

@[simp] theorem exec_fault {α : Type} (cfg : Config) (f : Fault) (w : World) :
    (exec cfg (fault f : P α)).run w = .error f w := rfl

/-! ## The effect of each call -/

section Effect

variable (cfg : Config) (w : World)

@[simp] theorem effect_xTaskGetTickCount :
    effect cfg .xTaskGetTickCount w = .ok (wrap32 w.xTickCount) w := rfl

@[simp] theorem effect_uxQueueMessagesWaiting (q : QueueHandle) :
    effect cfg (.uxQueueMessagesWaiting q) w = .ok (w.queues q).length w := rfl

@[simp] theorem effect_xQueuePeek (q : QueueHandle) :
    effect cfg (.xQueuePeek q) w = .ok (w.queues q).head? w := rfl

@[simp] theorem effect_xQueueReceive (q : QueueHandle) (t : Nat) :
    effect cfg (.xQueueReceive q t) w =
      .ok (w.queues q).head? { w with queues := Function.update w.queues q (w.queues q).tail } := rfl

theorem effect_xQueueSendToBack (q : QueueHandle) (i : NetworkQueueItem) (t : Nat) :
    effect cfg (.xQueueSendToBack q i t) w =
      if (w.queues q).length < cfg.ipconfigEventQueueLength then
        .ok true { w with queues := Function.update w.queues q (w.queues q ++ [i]) }
      else .ok false w := by
  simp only [effect, answer, EStateM.run_bind, EStateM.run_get]
  split <;> rfl

@[simp] theorem effect_xTaskNotifyGive :
    effect cfg .xTaskNotifyGive w = .ok () { w with ulNotifiedValue := wrap32 (w.ulNotifiedValue + 1) } := rfl

@[simp] theorem effect_ulTaskNotifyTake (t : Nat) :
    effect cfg (.ulTaskNotifyTake true t) w = .ok w.ulNotifiedValue { w with ulNotifiedValue := 0 } := rfl

@[simp] theorem effect_uxTaskPriorityGet : effect cfg .uxTaskPriorityGet w = .ok w.uxPriority w := rfl

@[simp] theorem effect_vTaskPrioritySet (p : Nat) :
    effect cfg (.vTaskPrioritySet p) w = .ok () { w with uxPriority := p } := rfl

@[simp] theorem effect_loadNextActivation (id : CbsId) :
    effect cfg (.loadNextActivation id) w = .ok (w.uxNextActivation id) w := rfl

@[simp] theorem effect_storeNextActivation (id : CbsId) (x : Nat) :
    effect cfg (.storeNextActivation id x) w =
      .ok () { w with uxNextActivation := Function.update w.uxNextActivation id x } := rfl

@[simp] theorem effect_loadNextWakeup : effect cfg .loadNextWakeup w = .ok w.uxNextWakeup w := rfl

@[simp] theorem effect_storeNextWakeup (x : Nat) :
    effect cfg (.storeNextWakeup x) w = .ok () { w with uxNextWakeup := x } := rfl

@[simp] theorem effect_loadQueueList : effect cfg .loadQueueList w = .ok w.pxNetworkQueueList w := rfl

@[simp] theorem effect_loadBuf (b : BufId) : effect cfg (.loadBuf b) w = .ok (w.bufs b, w.mem b) w := rfl

@[simp] theorem effect_fault (f : Fault) : effect cfg (.fault f) w = .error f w := rfl

end Effect

end FreeRtosTsn.Scheduler
