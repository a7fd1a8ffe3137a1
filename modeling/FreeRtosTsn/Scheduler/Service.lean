import FreeRtosTsn.Scheduler.System
import FreeRtosTsn.Lib.Places

/-!
# Insertions and pops

A record of every insertion of a run: its item, the queue that accepted it, what it returned, and the items that
the controller popped from each queue.
-/

namespace FreeRtosTsn.Scheduler

open Lib Kernel

/-- The insertions are numbered from 0. No code reads the record. -/
structure Ledger where
  inserted : Nat := 0
  items : Nat → NetworkQueueItem := fun _ => ⟨.eNetworkTxEvent, none, none, false⟩
  /-- The insertion that each task is in. -/
  current : Nat → Option Nat := fun _ => none
  /-- The insertions that a queue accepted, in the order of its sends. -/
  accepted : QueueHandle → List Nat := fun _ => []
  /-- The items received from a queue, in order. -/
  popped : QueueHandle → List NetworkQueueItem := fun _ => []
  returned : Nat → Option Bool := fun _ => none

namespace Ledger

variable (l : Ledger)

def start (t : Nat) (pxItem : NetworkQueueItem) : Ledger :=
  { l with
    inserted := l.inserted + 1
    items := Function.update l.items l.inserted pxItem
    current := Function.update l.current t (some l.inserted) }

def send (n : Nat) : (o : Call) → Call.Res o → Ledger
  | .xQueueSendToBack q _ _, true => { l with accepted := Function.update l.accepted q (l.accepted q ++ [n]) }
  | _, _ => l

/-- The insertion `n` of the task `t` is left with `p`, or has ended. -/
def finish (t n : Nat) : P Bool → Ledger
  | .ret b => { l with
      current := Function.update l.current t none
      returned := Function.update l.returned n (some b) }
  | .call _ _ => l

def receive : (o : Call) → Call.Res o → Ledger
  | .xQueueReceive q _, some i => { l with popped := Function.update l.popped q (l.popped q ++ [i]) }
  | _, _ => l

end Ledger

/-- Where an item can be: in a queue, or among what was popped from it. -/
inductive ItemPlace
  | inQueue (q : QueueHandle)
  | popped (q : QueueHandle)

/-- How often the insertion `n` is at a place. The items popped from a queue are the first that it accepted. -/
def Ledger.count (l : Ledger) (n : Nat) : ItemPlace → Nat
  | .inQueue q => ((l.accepted q).drop (l.popped q).length).count n
  | .popped q => ((l.accepted q).take (l.popped q).length).count n

def Inserts (cfg : Config) (pxItem : NetworkQueueItem) (p : P Bool) : Prop :=
  (∃ uxTimeout, p = xNetworkQueueInsertPacketByFilter cfg pxItem uxTimeout) ∨
    ∃ pcQueueName uxTimeout, p = xNetworkQueueInsertPacketByName cfg pxItem pcQueueName uxTimeout

/-- The system and the record of its run. -/
structure Service where
  sys : System
  ledger : Ledger

/-- A step of a task that starts an insertion, or makes its next call; or a tick. -/
inductive InsertStep (cfg : Config) : Service → Service → Prop
  | start {s : System} {l : Ledger} {t : Nat} {b : Bool} {p : P Bool} {pxItem : NetworkQueueItem} :
      s.tasks t = .ret b → Inserts cfg pxItem p →
      InsertStep cfg ⟨s, l⟩ ⟨{ s with tasks := Function.update s.tasks t p }, l.start t pxItem⟩
  | call {s : System} {l : Ledger} {t n : Nat} {o : Call} {k : Call.Res o → P Bool} {r : Call.Res o} {w' : World} :
      s.tasks t = .call (σ := Calls) o k → l.current t = some n → effect cfg o s.w = .ok r w' →
      InsertStep cfg ⟨s, l⟩ ⟨{ s with
        w := w'
        tasks := Function.update s.tasks t (k r)
        enqueued := Function.update s.enqueued t (o.pending r (s.enqueued t))
        untaken := o.untaken s.untaken }, (l.send n o r).finish t n (k r)⟩
  | tick {s : System} {l : Ledger} :
      InsertStep cfg ⟨s, l⟩ ⟨{ s with w := { s.w with xTickCount := s.w.xTickCount + 1 } }, l⟩

def serviceSem (cfg : Config) : Sem Calls Service where
  step o S r S' := ControllerStep cfg o S.sys r S'.sys ∧ S'.ledger = S.ledger.receive o r
  rely := InsertStep cfg

def serviceLoops (cfg : Config) (pxNetworkQueueRoot : NetworkNode) : Loops Calls Service ControllerLoop where
  body := prvTSNController cfg pxNetworkQueueRoot
  enter l S := { S with sys := (controller cfg pxNetworkQueueRoot).enter l S.sys }

/-- The states of the controller and the system, from a start with no insertion made. -/
def ServiceReachable (cfg : Config) (pxNetworkQueueRoot : NetworkNode) (s₀ : System) (c : P ControllerLoop × Service) :
    Prop :=
  (serviceLoops cfg pxNetworkQueueRoot).Reach (serviceSem cfg)
    (prvTSNController cfg pxNetworkQueueRoot .outer, ⟨s₀, {}⟩) c

section ServiceReachable

variable {cfg : Config} {root : NetworkNode} {s₀ : System} {S S' : Service}

theorem ServiceReachable.call {o : Call} {k : Call.Res o → P ControllerLoop} {r : Call.Res o} {w' : World}
    (h : ServiceReachable cfg root s₀ (.call (σ := Calls) o k, S)) (hw : Acts cfg o S.sys.w r w') :
    ServiceReachable cfg root s₀ (k r, ⟨S.sys.called ⟨o, r⟩ w', S.ledger.receive o r⟩) :=
  h.tail (.call ⟨⟨w', hw, rfl⟩, rfl⟩)

theorem ServiceReachable.loop {l : ControllerLoop} (h : ServiceReachable cfg root s₀ (.ret l, S)) :
    ServiceReachable cfg root s₀ (prvTSNController cfg root l, (serviceLoops cfg root).enter l S) := h.tail .loop

theorem ServiceReachable.task {p : P ControllerLoop} (h : ServiceReachable cfg root s₀ (p, S))
    (ht : InsertStep cfg S S') : ServiceReachable cfg root s₀ (p, S') := h.tail (.env ht)

end ServiceReachable

/-- Every insertion that passed is in one queue or was popped, once; one that failed is nowhere; and the queues hold
what they accepted but for what was popped, in order. -/
structure Ledger.Exact (l : Ledger) (w : World) : Prop where
  passed : ∀ n, l.returned n = some true → Once (l.count n)
  failed : ∀ n, l.returned n = some false → ∀ p, l.count n p = 0
  fifo : ∀ q, (l.accepted q).map l.items = l.popped q ++ w.queues q

/-- A pop that the controller is about to make finds an item. -/
def PopsItem (p : P ControllerLoop) (w : World) : Prop :=
  ∀ q uxTimeout k, p = .call (σ := Calls) (.xQueueReceive q uxTimeout) k → w.queues q ≠ []

end FreeRtosTsn.Scheduler
