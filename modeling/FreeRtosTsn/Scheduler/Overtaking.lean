import FreeRtosTsn.Scheduler.Service
import FreeRtosTsn.Scheduler.Order

/-!
# Overtaking

A round inspects the queues one by one, so an item can arrive at a leaf that the round has left behind. The leaves
after it may then be served first, but only by that round.
-/

namespace FreeRtosTsn.Scheduler

open Lib Kernel

/-- Every leaf of `q'` comes after a leaf of `q` that no scheduler holds back. -/
def Behind (ls : List Leaf) (q q' : QueueHandle) : Prop :=
  ∀ bef l aft, ls = bef ++ l :: aft → l.pxQueue.xQueue = q' → ∃ l₀ ∈ bef, l₀.cbs = none ∧ l₀.pxQueue.xQueue = q

/-- From `l` to `l'` all the queues of `C` together lost one item at most. -/
def PoppedOnce (C : QueueHandle → Prop) (l l' : Ledger) : Prop :=
  ∃ (q₀ : QueueHandle) (is : List NetworkQueueItem), is.length ≤ 1 ∧
    ∀ q, C q → l'.popped q = l.popped q ++ if q = q₀ then is else []

/-- An item that `q` had accepted at `l` has not been popped at `l'`. -/
def StillWaits (q : QueueHandle) (l l' : Ledger) : Prop := (l'.popped q).length < (l.accepted q).length

end FreeRtosTsn.Scheduler
