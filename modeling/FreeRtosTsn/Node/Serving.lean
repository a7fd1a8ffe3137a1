import FreeRtosTsn.Scheduler.Service
import FreeRtosTsn.Packet.Deliver
import FreeRtosTsn.Packet.Spec

/-!
# The controller that serves

The controller of `Scheduler` with the code that sends and delivers in the place of the call `serve`.
-/

namespace FreeRtosTsn.Node

open Lib Kernel Packet Scheduler

/-! ## Serving an item -/

/-- `xIsCallingFromTSNController` holds while the controller runs. -/
def asController (w : World) : World := { w with bCallingFromController := true }

/-- The task that was running goes on. -/
def resumed (w w' : World) : World := { w' with bCallingFromController := w.bCallingFromController }

/-- The controller served the item. A fault stops the node. -/
def Served (cfg : Config) (pxQueue : NetworkQueue) (xItem : NetworkQueueItem) (w w' : World) : Prop :=
  ∃ w₁, (prvServeItem cfg pxQueue xItem).run (asController w) = .ok () w₁ ∧ w' = resumed w w₁

/-- What serving leaves alone. Waiting lists grow at their ends. -/
structure ServeKeeps (w w' : World) : Prop extends SameScheduler w w' where
  pxNetworkQueueList : w'.pxNetworkQueueList = w.pxNetworkQueueList
  uxPriority : w'.uxPriority = w.uxPriority
  bCallingFromController : w'.bCallingFromController = w.bCallingFromController
  waiting : ∀ k, waiting w k <+: waiting w' k

/-! ## The node -/

/-- The effect of a call, with the code for the items. -/
def NodeActs (cfg : Config) (o : Call) (w : World) (r : Call.Res o) (w' : World) : Prop :=
  match o with
  | .serve pxQueue xItem => Served cfg pxQueue xItem w w'
  | o => effect cfg o w = .ok r w'

/-- The controller among tasks that insert. -/
def nodeSem (cfg : Config) : Sem Calls Service where
  step o S r S' := (∃ w', NodeActs cfg o S.sys.w r w' ∧ S'.sys = S.sys.called ⟨o, r⟩ w') ∧
    S'.ledger = S.ledger.receive o r
  rely := InsertStep cfg

def NodeReachable (cfg : Config) (pxNetworkQueueRoot : NetworkNode) (s₀ : System) (c : P ControllerLoop × Service) :
    Prop :=
  (serviceLoops cfg pxNetworkQueueRoot).Reach (nodeSem cfg)
    (prvTSNController cfg pxNetworkQueueRoot .outer, ⟨s₀, {}⟩) c

section NodeReachable

variable {cfg : Config} {root : NetworkNode} {s₀ : System} {S S' : Service}

theorem NodeReachable.call {o : Call} {k : Call.Res o → P ControllerLoop} {r : Call.Res o} {w' : World}
    (h : NodeReachable cfg root s₀ (.call (σ := Calls) o k, S)) (hw : NodeActs cfg o S.sys.w r w') :
    NodeReachable cfg root s₀ (k r, ⟨S.sys.called ⟨o, r⟩ w', S.ledger.receive o r⟩) :=
  h.tail (.call ⟨⟨w', hw, rfl⟩, rfl⟩)

theorem NodeReachable.loop {l : ControllerLoop} (h : NodeReachable cfg root s₀ (.ret l, S)) :
    NodeReachable cfg root s₀ (prvTSNController cfg root l, (serviceLoops cfg root).enter l S) := h.tail .loop

theorem NodeReachable.task {p : P ControllerLoop} (h : NodeReachable cfg root s₀ (p, S))
    (ht : InsertStep cfg S S') : NodeReachable cfg root s₀ (p, S') := h.tail (.env ht)

end NodeReachable

end FreeRtosTsn.Node
