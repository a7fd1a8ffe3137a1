import FreeRtosTsn.Lib.FirstMax
import FreeRtosTsn.Scheduler.Queue

/-!
# The choice of a queue

How the list of queues is built, and which of its queues an item is pushed to.
-/

namespace FreeRtosTsn.Scheduler

open Lib Kernel

/-! ## The list of queues -/

/-- The new item goes behind the last one, which the loop walks to. -/
def prvAddLast (pxItem : NetworkQueue) : List NetworkQueue → List NetworkQueue
  | [] => [pxItem]
  | [pxIndex] => [pxIndex, pxItem]
  | pxIndex :: pxNext :: rest => pxIndex :: prvAddLast pxItem (pxNext :: rest)

def vNetworkQueueListAdd (pxItem : NetworkQueue) : M Unit :=
  modify fun w => { w with pxNetworkQueueList := prvAddLast pxItem w.pxNetworkQueueList }

/-- `vNetworkQueueInit` of the user adds its queues one after the other. -/
def prvAddQueues : List NetworkQueue → M Unit
  | [] => return ()
  | pxItem :: rest => do
      vNetworkQueueListAdd pxItem
      prvAddQueues rest

theorem prvAddLast_eq (pxItem : NetworkQueue) (qs : List NetworkQueue) : prvAddLast pxItem qs = qs ++ [pxItem] := by
  fun_induction prvAddLast pxItem qs with
  | case1 => rfl
  | case2 pxIndex => rfl
  | case3 pxIndex pxNext rest ih => simp only [ih, List.cons_append]

/-- The list is in the order of the additions. -/
theorem run_prvAddQueues (qs : List NetworkQueue) (w : World) :
    (prvAddQueues qs).run w = .ok () { w with pxNetworkQueueList := w.pxNetworkQueueList ++ qs } := by
  induction qs generalizing w with
  | nil => simp [prvAddQueues]
  | cons q qs ih =>
      have hadd : (vNetworkQueueListAdd q).run w =
          .ok () { w with pxNetworkQueueList := prvAddLast q w.pxNetworkQueueList } := rfl
      rw [prvAddQueues, run_bind_ok hadd, ih, prvAddLast_eq]
      simp

/-! ## The chosen queue -/

/-- The filter of the queue accepts the buffer, and its policy the event. -/
def NetworkQueue.Admits (pxItem : NetworkQueueItem) (x : Option (NetworkBufferDescriptor × Mem)) (q : NetworkQueue) :
    Bool :=
  q.fnFilter x && prvMatchQueuePolicy pxItem q

/-- The queue with the largest IPV among those that admit the item, and the first of these. -/
abbrev Chosen (pxItem : NetworkQueueItem) (x : Option (NetworkBufferDescriptor × Mem)) :
    List NetworkQueue → NetworkQueue → Prop :=
  FirstMax NetworkQueue.uxIPV (NetworkQueue.Admits pxItem x)

section Choose

variable {pxItem : NetworkQueueItem} {x : Option (NetworkBufferDescriptor × Mem)}

/-- The loop keeps the best queue so far. -/
theorem prvChooseQueue_foldl (best : Option NetworkQueue) (qs : List NetworkQueue) :
    prvChooseQueue pxItem x best qs =
      (qs.filter (NetworkQueue.Admits pxItem x)).foldl (List.argAux fun q c => c.uxIPV < q.uxIPV) best := by
  induction qs generalizing best with
  | nil => cases best <;> rfl
  | cons q qs ih =>
      by_cases hq : (q.fnFilter x && prvMatchQueuePolicy pxItem q) = true
      · rw [List.filter_cons_of_pos (p := NetworkQueue.Admits pxItem x) hq, List.foldl_cons]
        cases best with
        | none =>
            rw [prvChooseQueue, if_pos hq]
            exact ih (some q)
        | some c =>
            have hbest : List.argAux (fun q c => c.uxIPV < q.uxIPV) (some c) q =
                if q.uxIPV ≤ c.uxIPV then some c else some q := by
              by_cases hle : q.uxIPV ≤ c.uxIPV
              · simp [List.argAux, hle, Nat.not_lt.mpr hle]
              · simp [List.argAux, hle, Nat.not_le.mp hle]
            rw [prvChooseQueue, if_pos hq, hbest]
            exact ih _
      · rw [List.filter_cons_of_neg (p := NetworkQueue.Admits pxItem x) hq, ← ih best]
        cases best with
        | none => rw [prvChooseQueue, if_neg hq]
        | some c => rw [prvChooseQueue, if_neg hq]

theorem prvChooseQueue_iff {qs : List NetworkQueue} {q : NetworkQueue} :
    prvChooseQueue pxItem x none qs = some q ↔ Chosen pxItem x qs q := by
  rw [prvChooseQueue_foldl]
  exact argmax_filter_iff

end Choose

/-! ## The push -/

structure Pushed (w w' : World) (q : QueueHandle) (xItem : NetworkQueueItem) : Prop where
  eq : w' = { w with
    queues := Function.update w.queues q (w.queues q ++ [xItem])
    ulNotifiedValue := wrap32 (w.ulNotifiedValue + 1)
    uxPriority := w'.uxPriority }

section Queue

variable {cfg : Config} {w : World} {xItem : NetworkQueueItem}

theorem exec_xNetworkQueuePush (cfg : Config) (w : World) (xItem : NetworkQueueItem) (q : NetworkQueue) (t : Nat) :
    ∃ w', (exec cfg (xNetworkQueuePush cfg q xItem t)).run w =
        .ok (decide ((w.queues q.xQueue).length < cfg.ipconfigEventQueueLength)) w' ∧
      if (w.queues q.xQueue).length < cfg.ipconfigEventQueueLength then Pushed w w' q.xQueue xItem else w' = w := by
  by_cases hroom : (w.queues q.xQueue).length < cfg.ipconfigEventQueueLength
  · cases hd : cfg.tsnconfigControllerHasDynamicPrio with
    | false =>
        simp -implicitDefEqProofs [xNetworkQueuePush, effect_xQueueSendToBack, hroom, hd, xNotifyController]
        exact ⟨rfl⟩
    | true =>
        by_cases hlt : w.uxPriority < q.uxIPV
        · simp -implicitDefEqProofs [xNetworkQueuePush, effect_xQueueSendToBack, hroom, hd, xNotifyController,
            xTSNControllerUpdatePriority, hlt]
          exact ⟨rfl⟩
        · simp -implicitDefEqProofs [xNetworkQueuePush, effect_xQueueSendToBack, hroom, hd, xNotifyController,
            xTSNControllerUpdatePriority, hlt]
          exact ⟨rfl⟩
  · simp -implicitDefEqProofs [xNetworkQueuePush, effect_xQueueSendToBack, hroom]

theorem exec_insert (cfg : Config) (w : World) (xItem : NetworkQueueItem) (t : Nat) :
    (exec cfg (xNetworkQueueInsertPacketByFilter cfg xItem t)).run w =
      match prvChooseQueue xItem (bufferOf w xItem.pxBuf) none w.pxNetworkQueueList with
      | some q => (exec cfg (xNetworkQueuePush cfg q xItem t)).run w
      | none => .ok false w := by
  cases hb : xItem.pxBuf with
  | none =>
      simp -implicitDefEqProofs [xNetworkQueueInsertPacketByFilter, hb, prvLoadBuf, bufferOf]
      cases prvChooseQueue xItem none none w.pxNetworkQueueList <;> rfl
  | some b =>
      simp -implicitDefEqProofs [xNetworkQueueInsertPacketByFilter, hb, prvLoadBuf, bufferOf]
      cases prvChooseQueue xItem (some (w.bufs b, w.mem b)) none w.pxNetworkQueueList <;> rfl

end Queue

end FreeRtosTsn.Scheduler
