import FreeRtosTsn.Scheduler.Overtaking
import FreeRtosTsn.Lib.Rounds
import Mathlib.Algebra.BigOperators.Group.Finset.Basic

/-!
# Response

How many rounds an item waits: one for each item ahead of it, and a fixed number more.
-/

namespace FreeRtosTsn.Scheduler

open Lib Kernel

/-- The leaves before the first leaf of `q` that no scheduler holds back. -/
def leavesAhead (ls : List Leaf) (q : QueueHandle) : List Leaf :=
  ls.takeWhile fun l => !(l.cbs.isNone && l.pxQueue.xQueue == q)

def leafQueues (ls : List Leaf) : Finset QueueHandle := (ls.map (·.pxQueue.xQueue)).toFinset

def queuesAhead (ls : List Leaf) (q : QueueHandle) : Finset QueueHandle := (leafQueues (leavesAhead ls q)).erase q

/-- The items that `q` holds at `S`, and those that it accepts until `S'`. -/
def offered (S S' : Service) (q : QueueHandle) : Nat :=
  (S.sys.w.queues q).length + ((S'.ledger.accepted q).length - (S.ledger.accepted q).length)

/-- The items that an item which `q` accepted last waits for: those of its queue, itself included, and those of the
queues ahead. -/
def interference (ls : List Leaf) (q : QueueHandle) (S S' : Service) : Nat :=
  (S.sys.w.queues q).length + ∑ q' ∈ queuesAhead ls q, offered S S' q'

/-- The controller enters `n` bodies on the way. -/
abbrev RunsIn (cfg : Config) (pxNetworkQueueRoot : NetworkNode) (c : P ControllerLoop × Service) (n : Nat)
    (c' : P ControllerLoop × Service) : Prop :=
  (serviceLoops cfg pxNetworkQueueRoot).ReachIn (serviceSem cfg) c n c'

end FreeRtosTsn.Scheduler
