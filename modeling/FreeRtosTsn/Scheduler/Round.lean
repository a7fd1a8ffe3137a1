import FreeRtosTsn.Scheduler.Order

/-!
# What a round may do

A credit based scheduler may also be linked to a child scheduler. A round then stops at the scheduler itself, whose
ready function needs a packet and finds no queue.
-/

namespace FreeRtosTsn.Scheduler

open Lib Kernel

mutual
/-- A tree of Prio, FIFO and CBS nodes with every slot linked, to a queue or to a child. -/
def NetworkNode.Linked : NetworkNode → Prop
  | .null => False
  | .mk _ _ (some _) _ => True
  | .mk n s none pxNext => n = pxNext.length ∧ (s.fnSelect = .prvSelectFirst → pxNext.length = 1) ∧ LinkedList pxNext

def LinkedList : List NetworkNode → Prop
  | [] => True
  | n :: ns => n.Linked ∧ LinkedList ns
end

mutual
/-- The credit based schedulers under a node, each with the queues of its subtree. -/
def NetworkNode.shapers : NetworkNode → List (SchedulerCBS × List NetworkQueue)
  | .null => []
  | .mk _ s (some q) _ => s.fnReady.cbs.toList.map fun c => (c, [q])
  | .mk _ s none pxNext => (s.fnReady.cbs.toList.map fun c => (c, linkedQueuesList pxNext)) ++ shapersList pxNext

def shapersList : List NetworkNode → List (SchedulerCBS × List NetworkQueue)
  | [] => []
  | n :: ns => n.shapers ++ shapersList ns
end

/-- Every credit based scheduler of the tree has an activation of its own. -/
structure NetworkNode.WellBuilt (root : NetworkNode) : Prop where
  linked : root.Linked
  distinct : (root.shapers.map fun n => n.1.id).Nodup

/-- The packet that is popped from the queue is the one that the scheduler was charged for. -/
def ChargedFor (cfg : Config) (c : SchedulerCBS) (q : NetworkQueue) (w w' : World) : Prop :=
  ∃ xItem b w'', (exec cfg (xNetworkQueuePop q 0)).run w' = .ok (some xItem) w'' ∧ xItem.pxBuf = some b ∧
    w'.uxNextActivation c.id = uxCBSCharge (w.uxNextActivation c.id) (wrap32 w.xTickCount) (uxCBSMaxDelay cfg c)
      (uxCBSDelay cfg c (w''.bufs b).xDataLength)

/-- A round that is safe and charges only what it serves. A division by a bandwidth of zero is no access. -/
def SafeRound (cfg : Config) (root : NetworkNode) (w : World) : Prop :=
  match (exec cfg (pxNetworkSchedulerCall cfg root)).run w with
  | .ok r w' => ∀ n ∈ root.shapers, w'.uxNextActivation n.1.id ≠ w.uxNextActivation n.1.id →
      ∃ q ∈ n.2, r = some q ∧ ChargedFor cfg n.1 q w w'
  | .error e w' => e ≠ .null ∧ e ≠ .heap ∧ w'.uxNextActivation = w.uxNextActivation

/-! ## The stops of a round -/

/-- Where a round may end: at a node that has a queue, or at a credit based scheduler that has none. -/
structure Stop where
  cbs : Option SchedulerCBS
  pxQueue : Option NetworkQueue

mutual
/-- The stops under a node in the order of the round. -/
def NetworkNode.stops : NetworkNode → List Stop
  | .null => []
  | .mk _ s (some q) _ => [⟨s.fnReady.cbs, some q⟩]
  | .mk _ s none pxNext => match s.fnReady.cbs with
      | none => stopsList pxNext
      | some c => [⟨some c, none⟩]

def stopsList : List NetworkNode → List Stop
  | [] => []
  | n :: ns => n.stops ++ stopsList ns
end

namespace Stop

variable (w : World) (s : Stop)

/-- The round goes on: the scheduler is not eligible, or there is no scheduler and the queue is empty. -/
def skipped : Bool :=
  match s.cbs with
  | none => (s.pxQueue.elim [] fun q => w.queues q.xQueue).isEmpty
  | some c => decide (wrap32 w.xTickCount < w.uxNextActivation c.id)

/-- The scheduler has no packet to charge for. -/
def Misses : Prop := s.cbs.isSome ∧ nextPacket w s.pxQueue = none

end Stop

/-- The stop that the round ends at. -/
def firstStop (w : World) (ss : List Stop) : Option Stop := ss.find? fun s => !s.skipped w

end FreeRtosTsn.Scheduler
