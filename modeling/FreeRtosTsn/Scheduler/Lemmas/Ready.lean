import FreeRtosTsn.Scheduler.Tree

/-!
# The ready function of a shaper

What `prvCBSReady` answers, and what it leaves.
-/

namespace FreeRtosTsn.Scheduler

open Lib Kernel

variable {cfg : Config} {c : SchedulerCBS}

theorem exec_bind {α β : Type} (p : P α) (f : α → P β) (w : World) :
    (exec cfg (p >>= f)).run w = match (exec cfg p).run w with
      | .ok a w' => (exec cfg (f a)).run w'
      | .error e w' => .error e w' := by
  rw [exec, Prog.interp_bind, EStateM.run_bind, exec]
  cases (p.interp (answer cfg)).run w <;> rfl

/-- The buffer of the packet at the head of a queue. -/
def nextPacket (w : World) (pxQueue : Option NetworkQueue) : Option BufId :=
  (pxQueue.bind fun q => (w.queues q.xQueue).head?).bind (·.pxBuf)

/-- The state after the shaper is charged for the packet in `b`. -/
def charged (cfg : Config) (c : SchedulerCBS) (b : BufId) (w : World) : World :=
  { w with
    uxNextActivation := Function.update w.uxNextActivation c.id
      (uxCBSCharge (w.uxNextActivation c.id) (wrap32 w.xTickCount) (uxCBSMaxDelay cfg c)
        (uxCBSDelay cfg c (w.bufs b).xDataLength)) }

/-- The state after a wakeup event is added. -/
def woken (uxTime : Nat) (w : World) : World :=
  { w with
    uxNextWakeup := if uxTime < w.uxNextWakeup ∨ w.uxNextWakeup ≤ wrap32 w.xTickCount then uxTime else w.uxNextWakeup }

theorem run_vNetworkQueueAddWakeupEvent (uxTime : Nat) (w : World) :
    (exec cfg (vNetworkQueueAddWakeupEvent uxTime)).run w = .ok () (woken uxTime w) := by
  simp only [vNetworkQueueAddWakeupEvent, call_eq, Prog.call_bind, Prog.ret_bind, exec_call, effect_xTaskGetTickCount,
    effect_loadNextWakeup, woken]
  split
  · rfl
  · rfl

theorem run_pxPeekNextPacket (pxQueue : Option NetworkQueue) (w : World) :
    (exec cfg (pxPeekNextPacket pxQueue)).run w =
      match pxQueue with
      | none => .error .null w
      | some _ => .ok (nextPacket w pxQueue) w := by
  cases pxQueue with
  | none => rfl
  | some q => cases hq : w.queues q.xQueue <;> simp [pxPeekNextPacket, deref, nextPacket, hq]

theorem nextPacket_eq_some {w : World} {pxQueue : Option NetworkQueue} {b : BufId}
    (h : nextPacket w pxQueue = some b) :
    ∃ q xItem is, pxQueue = some q ∧ w.queues q.xQueue = xItem :: is ∧ xItem.pxBuf = some b := by
  cases pxQueue with
  | none => simp [nextPacket] at h
  | some q =>
      cases hq : w.queues q.xQueue with
      | nil => simp [nextPacket, hq] at h
      | cons xItem is => exact ⟨q, xItem, is, rfl, hq, by simpa [nextPacket, hq] using h⟩

/-- A shaper that is eligible needs a packet to charge for; one that is not adds a wakeup event. -/
theorem run_prvCBSReady (cfg : Config) (c : SchedulerCBS) (pxQueue : Option NetworkQueue) (w : World) :
    (exec cfg (prvCBSReady cfg c pxQueue)).run w =
      if w.uxNextActivation c.id ≤ wrap32 w.xTickCount then
        match nextPacket w pxQueue with
        | none => .error .null w
        | some b => if c.uxBandwidth = 0 then .error .divZero w else .ok true (charged cfg c b w)
      else .ok false (woken (w.uxNextActivation c.id) w) := by
  simp only [prvCBSReady, call_eq, Prog.call_bind, Prog.ret_bind, exec_call, effect_xTaskGetTickCount,
    effect_loadNextActivation]
  split
  · rw [exec_bind, run_pxPeekNextPacket]
    cases pxQueue with
    | none => rfl
    | some q =>
        cases hb : nextPacket w (some q) with
        | none => rfl
        | some b =>
            by_cases hB : c.uxBandwidth = 0
            · simp [deref, hB]
            · simp [deref, hB, charged]
  · rw [exec_bind, run_vNetworkQueueAddWakeupEvent]
    rfl

/-- The two ways in which `prvCBSReady` ends. -/
theorem prvCBSReady_inv {pxQueue : Option NetworkQueue} {w w' : World} {bReady : Bool}
    (h : (exec cfg (prvCBSReady cfg c pxQueue)).run w = .ok bReady w') :
    (bReady = true ∧ w.uxNextActivation c.id ≤ wrap32 w.xTickCount ∧ c.uxBandwidth ≠ 0 ∧
        ∃ b, nextPacket w pxQueue = some b ∧ w' = charged cfg c b w) ∨
      (bReady = false ∧ wrap32 w.xTickCount < w.uxNextActivation c.id ∧ w' = woken (w.uxNextActivation c.id) w) := by
  rw [run_prvCBSReady] at h
  split at h
  · rename_i hle
    cases hb : nextPacket w pxQueue with
    | none =>
        rw [hb] at h
        cases h
    | some b =>
        rw [hb] at h
        dsimp only at h
        split at h
        · cases h
        · rename_i hB
          cases h
          exact .inl ⟨rfl, hle, hB, b, rfl, rfl⟩
  · rename_i hlt
    cases h
    exact .inr ⟨rfl, Nat.not_le.mp hlt, rfl⟩

theorem prvCallTerminal_run (q : NetworkQueue) (w : World) :
    (exec cfg (prvCallTerminal q)).run w =
      .ok (if (w.queues q.xQueue).isEmpty then none else some q) w := by
  simp only [prvCallTerminal, xNetworkQueueIsEmpty, call_eq, Prog.call_bind, Prog.ret_bind, Prog.pure_eq, exec_call,
    effect_uxQueueMessagesWaiting]
  cases hq : w.queues q.xQueue <;> simp

end FreeRtosTsn.Scheduler
