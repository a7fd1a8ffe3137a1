import FreeRtosTsn.Lib.Mirror
import FreeRtosTsn.Scheduler.System

/-!
# Shifted ticks

The rounds of a scheduler in which the same number is added to every tick value, modulo the width of a tick count.
-/

namespace FreeRtosTsn.Scheduler

open Lib Kernel

/-! ## Rounds -/

/-- What happens between two calls: ticks pass, and other tasks leave other contents in queues and buffers. -/
structure Others where
  uxTicks : Nat
  queues : QueueHandle → List NetworkQueueItem
  bufs : BufId → NetworkBufferDescriptor
  mem : BufId → Mem

def Others.act (x : Others) (w : World) : World :=
  { w with xTickCount := w.xTickCount + x.uxTicks, queues := x.queues, bufs := x.bufs, mem := x.mem }

def machine (cfg : Config) : Machine Calls World Others where
  act := Others.act
  step o w r w' := effect cfg o w = .ok r w'

/-- What the controller does with a scheduler. -/
inductive RoundCall
  | uxNetworkQueueGetTicksUntilWakeup
  | xNetworkQueueSchedule
  | xNetworkQueuePop (pxQueue : NetworkQueue)

inductive RoundResult
  | ticks (uxTicks : Nat)
  | queue (pxQueue : Option NetworkQueue)
  | item (pxItem : Option NetworkQueueItem)

def RoundCall.run (cfg : Config) (root : NetworkNode) : RoundCall → P RoundResult
  | .uxNetworkQueueGetTicksUntilWakeup => return .ticks (← Scheduler.uxNetworkQueueGetTicksUntilWakeup)
  | .xNetworkQueueSchedule => return .queue (← Scheduler.xNetworkQueueSchedule cfg root)
  | .xNetworkQueuePop pxQueue => return .item (← Scheduler.xNetworkQueuePop pxQueue 0)

/-- A sequence of calls, with what each returns. -/
def prvRounds (cfg : Config) (root : NetworkNode) : List RoundCall → P (List RoundResult)
  | [] => return []
  | c :: cs => do
      let r ← c.run cfg root
      return r :: (← prvRounds cfg root cs)

/-! ## The shift -/

def shiftTick (c x : Nat) : Nat := wrap32 (x + c)

def shiftTicks (c : Nat) (w : World) : World :=
  { w with
    xTickCount := w.xTickCount + c
    uxNextActivation := fun id => shiftTick c (w.uxNextActivation id)
    uxNextWakeup := shiftTick c w.uxNextWakeup }

/-- The stored tick values are `TickType_t`. -/
structure TicksOk (w : World) : Prop where
  uxNextActivation : ∀ id, w.uxNextActivation id < 2 ^ 32
  uxNextWakeup : w.uxNextWakeup < 2 ^ 32

/-- Both values pass the end of the tick count when `c` is added, or none does, or they are the same. -/
def SameSide (c x y : Nat) : Prop := x = y ∨ (x + c < 2 ^ 32 ↔ y + c < 2 ^ 32)

def Call.shift (c : Nat) : Call → Call
  | .storeNextActivation id uxTime => .storeNextActivation id (shiftTick c uxTime)
  | .storeNextWakeup uxTime => .storeNextWakeup (shiftTick c uxTime)
  | o => o

def Call.shiftRes (c : Nat) : (o : Call) → Call.Res o → Call.Res (o.shift c)
  | .xTaskGetTickCount, uxNow => shiftTick c uxNow
  | .loadNextActivation _, uxTime => shiftTick c uxTime
  | .loadNextWakeup, uxTime => shiftTick c uxTime
  | .uxQueueMessagesWaiting _, r => r
  | .xQueuePeek _, r => r
  | .xQueueReceive _ _, r => r
  | .xQueueSendToBack _ _ _, r => r
  | .xTaskNotifyGive, r => r
  | .ulTaskNotifyTake _ _, r => r
  | .uxTaskPriorityGet, r => r
  | .vTaskPrioritySet _, r => r
  | .storeNextActivation _ _, r => r
  | .storeNextWakeup _, r => r
  | .loadQueueList, r => r
  | .loadBuf _, r => r
  | .serve _ _, r => r
  | .fault _, r => r

def shiftEvent (c : Nat) (e : Event) : Event := ⟨e.1.shift c, Call.shiftRes c e.1 e.2⟩

/-- The tick that was sampled last, and the activation that was last found ahead of it. -/
structure Sampled where
  uxNow : Option Nat := none
  uxTime : Option Nat := none

def Sampled.next (t : Sampled) : Event → Sampled
  | ⟨.xTaskGetTickCount, uxNow⟩ => { t with uxNow := some uxNow }
  | ⟨.loadNextActivation _, uxTime⟩ =>
      { t with uxTime := t.uxNow.bind fun uxNow => if uxTime ≤ uxNow then none else some uxTime }
  | ⟨.loadNextWakeup, _⟩ => { t with uxTime := none }
  | _ => t

/-- The tick values that the code compares after this call are on the same side: an activation and the sample; if it has
come, the activation with the credit and the sample; an activation and the wakeup event; and, unless the activation is
the earlier one, the wakeup event and the sample. -/
def Sampled.Compares (cfg : Config) (root : NetworkNode) (c : Nat) (t : Sampled) : Event → Prop
  | ⟨.loadNextActivation id, uxTime⟩ => ∀ uxNow ∈ t.uxNow, SameSide c uxTime uxNow ∧
      (uxTime ≤ uxNow → ∀ s ∈ root.cbsNodes, s.id = id → SameSide c (wrap32 (uxTime + uxCBSMaxDelay cfg s)) uxNow)
  | ⟨.loadNextWakeup, uxNextWakeup⟩ => (∀ uxTime ∈ t.uxTime, SameSide c uxTime uxNextWakeup) ∧
      ((∀ uxTime ∈ t.uxTime, uxNextWakeup ≤ uxTime) → ∀ uxNow ∈ t.uxNow, SameSide c uxNow uxNextWakeup)
  | _ => True

def Call.StoresTick : Call → Prop
  | .storeNextActivation _ uxTime | .storeNextWakeup uxTime => uxTime < 2 ^ 32
  | _ => True

def Call.AnswersTick : Event → Prop
  | ⟨.xTaskGetTickCount, x⟩ | ⟨.loadNextActivation _, x⟩ | ⟨.loadNextWakeup, x⟩ => x < 2 ^ 32
  | _ => True

def tickMirror (cfg : Config) (root : NetworkNode) (c : Nat) : Mirror Calls Sampled where
  op := Call.shift c
  res := Call.shiftRes c
  pre := Call.StoresTick
  knows := Call.AnswersTick
  next := Sampled.next
  asks := Sampled.Compares cfg root c
  rest t := t.uxTime = none

/-- No two tick values that a run compares are separated by the end of the tick count in one of the two runs only. -/
def NoneSeparated (cfg : Config) (root : NetworkNode) (c : Nat) (es : List Event) : Prop :=
  (tickMirror cfg root c).Holds {} es

/-- The tick values that are sampled, read and stored. -/
def tickValues : List Event → List Nat
  | [] => []
  | ⟨.xTaskGetTickCount, x⟩ :: es | ⟨.loadNextActivation _, x⟩ :: es | ⟨.loadNextWakeup, x⟩ :: es => x :: tickValues es
  | ⟨.storeNextActivation _ x, _⟩ :: es | ⟨.storeNextWakeup x, _⟩ :: es => x :: tickValues es
  | _ :: es => tickValues es

/-- Whether each credit based scheduler that was asked was ready. -/
def readyDecisions : Option Nat → List Event → List Bool
  | _, [] => []
  | _, ⟨.xTaskGetTickCount, uxNow⟩ :: es => readyDecisions (some uxNow) es
  | some uxNow, ⟨.loadNextActivation _, uxTime⟩ :: es => decide (uxTime ≤ uxNow) :: readyDecisions (some uxNow) es
  | now, _ :: es => readyDecisions now es

end FreeRtosTsn.Scheduler
