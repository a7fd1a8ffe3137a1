import FreeRtosTsn.Scheduler.System

/-!
# The dynamic priority of the controller

A push raises the priority of the controller: it reads the priority and then sets it. After a pop that empties a
queue the controller recomputes it: it scans the queue list and then sets it. The calls of one can fall between
those of the other.
-/

namespace FreeRtosTsn.Scheduler

open Lib Kernel

/-- The base priority, or the largest priority of the queues that are not empty. -/
def duePriority (cfg : Config) (w : World) : Nat :=
  ((w.pxNetworkQueueList.filter fun q => !(w.queues q.xQueue).isEmpty).map (·.uxIPV)).foldl max
    (controllerTsnTaskBasePrio cfg)

/-! ## The rest of a push -/

/-- The item is sent. -/
def raising (cfg : Config) (uxIPV : Nat) : P Bool := do
  let _ ← xTSNControllerUpdatePriority cfg uxIPV
  xNotifyController
  return true

/-- The priority was read and found below `uxIPV`. -/
def setting (uxIPV : Nat) : P Bool := do
  call (.vTaskPrioritySet uxIPV)
  xNotifyController
  return true

/-- The priority is not to be set any more. -/
def notifying : P Bool := do
  xNotifyController
  return true

/-- The program has yet to raise the priority to `uxIPV` or more, if it still finds it lower. -/
def Raises (cfg : Config) (p : P Bool) (uxIPV : Nat) : Prop :=
  ∃ v, uxIPV ≤ v ∧ (p = raising cfg v ∨ p = setting v)

/-- A task has yet to raise the priority to `uxIPV` or more. -/
def System.Pending (cfg : Config) (s : System) (uxIPV : Nat) : Prop := ∃ t, Raises cfg (s.tasks t) uxIPV

/-! ## The pop and the recompute -/

/-- Where the controller is between the pop of an item and the end of the recompute. `found` is what the scan found
in the queues so far. -/
inductive PriorityStage
  | idle
  | popped (q : QueueHandle)
  | recomputing (found : List (QueueHandle × Nat))
  deriving DecidableEq

def PriorityStage.next : PriorityStage → Event → PriorityStage
  | .idle, ⟨.xQueueReceive q _, some _⟩ => .popped q
  | .popped _, ⟨.uxQueueMessagesWaiting _, n⟩ => if n = 0 then .recomputing [] else .idle
  | .recomputing found, ⟨.uxQueueMessagesWaiting q, n⟩ => .recomputing (found ++ [(q, n)])
  | .recomputing _, ⟨.vTaskPrioritySet _, _⟩ => .idle
  | stage, _ => stage

def System.stage (s : System) : PriorityStage := s.round.foldl .next .idle

@[simp] theorem System.stage_called (s : System) (e : Event) (w : World) :
    (s.called e w).stage = s.stage.next e := by
  simp [System.stage, System.called, List.foldl_append]

/-! ## Runs without lost updates -/

def System.Waits (s : System) (q : NetworkQueue) : Prop := q ∈ s.w.pxNetworkQueueList ∧ s.w.queues q.xQueue ≠ []

/-- A queue of priority `uxPriority` or more is not empty, or the controller has just popped its item. -/
def System.Justifies (s : System) (uxPriority : Nat) : Prop :=
  ∃ q ∈ s.w.pxNetworkQueueList, uxPriority ≤ q.uxIPV ∧ (s.w.queues q.xQueue ≠ [] ∨ s.stage = .popped q.xQueue)

/-- A push that changes the priority to `uxPriority` does not lower it and is not late: an item that asks for it is
still there. While the controller recomputes the change does not matter. -/
def RaiseTimely (s : System) (uxPriority : Nat) : Prop :=
  (∃ found, s.stage = .recomputing found) ∨ s.w.uxPriority ≤ uxPriority ∧ s.Justifies uxPriority

/-- When the controller sets the priority, a queue that its scan found empty may have an item by now only if that does
not matter, or a task has yet to raise the priority for it. -/
def RecomputeTimely (cfg : Config) (s : System) : Prop :=
  ∀ found, s.stage = .recomputing found → ∀ q, s.Waits q → (q.xQueue, 0) ∈ found →
    controllerTsnTaskBasePrio cfg < q.uxIPV →
    (∀ q' ∈ s.w.pxNetworkQueueList, ∀ n ≠ 0, (q'.xQueue, n) ∈ found → q'.uxIPV < q.uxIPV) →
    s.Pending cfg q.uxIPV

/-- The condition on a call of the controller. Serving an item leaves the priority and the queue list alone. -/
def CallTimely (cfg : Config) (o : Call) (s s' : System) : Prop :=
  match o with
  | .serve _ _ => s'.w.uxPriority = s.w.uxPriority ∧ s'.w.pxNetworkQueueList = s.w.pxNetworkQueueList
  | .vTaskPrioritySet _ => RecomputeTimely cfg s
  | _ => True

/-- The steps whose changes of the priority are timely. -/
def prioritySem (cfg : Config) (entry : P Bool → Prop) : Sem Calls System where
  step o s r s' := ControllerStep cfg o s r s' ∧ CallTimely cfg o s s'
  rely s s' := TaskStep cfg entry s s' ∧ (s'.w.uxPriority ≠ s.w.uxPriority → RaiseTimely s s'.w.uxPriority)

/-- The programs of tasks that push to the queues `qs`. -/
def PushesTo (cfg : Config) (qs : List NetworkQueue) (p : P Bool) : Prop :=
  ∃ q ∈ qs, ∃ pxItem uxTimeout, p = xNetworkQueuePush cfg q pxItem uxTimeout

/-- The controller has its base priority, and each queue of the list has a queue of the kernel of its own. -/
structure StartsPriority (cfg : Config) (s : System) : Prop extends Starts s where
  uxPriority : s.w.uxPriority = controllerTsnTaskBasePrio cfg
  distinct : ∀ q ∈ s.w.pxNetworkQueueList, ∀ q' ∈ s.w.pxNetworkQueueList, q.xQueue = q'.xQueue → q = q'

/-- The states of the runs in which every change of the priority is timely. -/
def TimelyReachable (cfg : Config) (pxNetworkQueueRoot : NetworkNode) (s₀ : System)
    (c : P ControllerLoop × System) : Prop :=
  (controller cfg pxNetworkQueueRoot).Reach (prioritySem cfg (PushesTo cfg s₀.w.pxNetworkQueueList))
    (prvTSNController cfg pxNetworkQueueRoot .outer, s₀) c

/-- No push, and no pop with its recompute, is in progress. -/
structure System.Quiet (s : System) : Prop where
  tasks : ∀ t, ∃ b, s.tasks t = .ret b
  stage : s.stage = .idle

end FreeRtosTsn.Scheduler
