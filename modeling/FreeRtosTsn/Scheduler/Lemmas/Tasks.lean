import FreeRtosTsn.Scheduler.System

/-!
# What the steps of the tasks keep

Tasks that push only add items and notifications, and time only grows.
-/

namespace FreeRtosTsn.Scheduler

open Lib Kernel

variable {cfg : Config} {entry : P Bool → Prop}

/-- Every task is in a push, at a point that agrees with what it has yet to notify. -/
def TasksOk (s : System) : Prop := ∀ t, Notifies (s.tasks t) (s.enqueued t)

theorem TasksOk.start {s : System} {t : Nat} {b : Bool} {p : P Bool} (h : TasksOk s) (ht : s.tasks t = .ret b)
    (hp : Notifies p none) : TasksOk { s with tasks := Function.update s.tasks t p } := by
  intro u
  by_cases hu : u = t
  · subst hu
    have hq : s.enqueued u = none := by simpa only [ht, Notifies] using h u
    simpa [hq] using hp
  · simpa [Function.update_of_ne hu] using h u

theorem TasksOk.call {s : System} {t : Nat} {o : Call} {k : Call.Res o → P Bool} {r : Call.Res o} {w' : World}
    (h : TasksOk s) (ht : s.tasks t = .call (σ := Calls) o k) :
    TasksOk { s with
      w := w'
      tasks := Function.update s.tasks t (k r)
      enqueued := Function.update s.enqueued t (o.pending r (s.enqueued t))
      untaken := o.untaken s.untaken } := by
  have hn := h t
  rw [ht] at hn
  intro u
  by_cases hu : u = t
  · subst hu
    simpa using hn.2.2 r
  · simpa [Function.update_of_ne hu] using h u

theorem effect_byTask {o : Call} {w w' : World} {r : Call.Res o} (ho : Call.ByTask o)
    (h : effect cfg o w = .ok r w') (q : QueueHandle) (n : Nat) :
    (w'.queues q = w.queues q ∨ o.pending r none = some q) ∧
      (n ≤ o.untaken n ∧ (o.pending r (some q) = none → o.untaken n ≠ 0)) := by
  cases o with
  | xQueueSendToBack q' i t =>
      rw [effect_xQueueSendToBack] at h
      split at h
      · cases h
        by_cases hq : q = q'
        · simp [hq, Call.pending, Call.untaken]
        · simp [hq, Call.pending, Call.untaken]
      · cases h
        simp [Call.pending, Call.untaken]
  | xTaskNotifyGive => cases h; simp [Call.pending, Call.untaken]
  | uxTaskPriorityGet => cases h; simp [Call.pending, Call.untaken]
  | vTaskPrioritySet p => cases h; simp [Call.pending, Call.untaken]
  | loadQueueList => cases h; simp [Call.pending, Call.untaken]
  | loadBuf b => cases h; simp [Call.pending, Call.untaken]
  | fault f => cases h
  | _ => exact ho.elim

/-- What a step of the tasks leaves alone. -/
structure TasksKeep (s s' : System) : Prop where
  uxNextActivation : s'.w.uxNextActivation = s.w.uxNextActivation
  uxNextWakeup : s'.w.uxNextWakeup = s.w.uxNextWakeup
  xTickCount : s.w.xTickCount ≤ s'.w.xTickCount
  round : s'.round = s.round
  queues : ∀ q, s.w.queues q ≠ [] → s'.w.queues q ≠ []

theorem effect_keeps {o : Call} {w w' : World} {r : Call.Res o} (ho : Call.ByTask o)
    (h : effect cfg o w = .ok r w') :
    w'.uxNextActivation = w.uxNextActivation ∧ w'.uxNextWakeup = w.uxNextWakeup ∧ w'.xTickCount = w.xTickCount ∧
      ∀ q, w.queues q ≠ [] → w'.queues q ≠ [] := by
  cases o with
  | xQueueSendToBack q' i t =>
      rw [effect_xQueueSendToBack] at h
      split at h
      · cases h
        refine ⟨rfl, rfl, rfl, fun q hq => ?_⟩
        by_cases hqq : q = q'
        · simp [hqq]
        · simpa [hqq] using hq
      · cases h
        exact ⟨rfl, rfl, rfl, fun _ h => h⟩
  | xTaskNotifyGive => cases h; exact ⟨rfl, rfl, rfl, fun _ h => h⟩
  | uxTaskPriorityGet => cases h; exact ⟨rfl, rfl, rfl, fun _ h => h⟩
  | vTaskPrioritySet p => cases h; exact ⟨rfl, rfl, rfl, fun _ h => h⟩
  | loadQueueList => cases h; exact ⟨rfl, rfl, rfl, fun _ h => h⟩
  | loadBuf b => cases h; exact ⟨rfl, rfl, rfl, fun _ h => h⟩
  | fault f => cases h
  | _ => exact ho.elim

theorem TasksOk.step (hentry : ∀ p, entry p → Notifies p none) {s s' : System} (h : TasksOk s)
    (hst : TaskStep cfg entry s s') : TasksOk s' ∧ TasksKeep s s' := by
  cases hst with
  | start ht hp => exact ⟨h.start ht (hentry _ hp), rfl, rfl, Nat.le_refl _, rfl, fun _ h => h⟩
  | @call t o k r w' ht ho =>
      have hn := h t
      rw [ht] at hn
      obtain ⟨ha, hw, ht', hq⟩ := effect_keeps hn.1 ho
      exact ⟨h.call ht, ha, hw, Nat.le_of_eq ht'.symm, rfl, hq⟩
  | tick => exact ⟨h, rfl, rfl, Nat.le_succ _, rfl, fun _ h => h⟩

theorem TasksOk.stable (hentry : ∀ p, entry p → Notifies p none) : Stable (sem cfg entry) TasksOk :=
  fun _ _ h hst => (h.step hentry hst).1

theorem TasksOk.stable_of (hentry : ∀ p, entry p → Notifies p none) {I : System → Prop}
    (hI : ∀ s, I s → TasksOk s) (hk : ∀ s s', I s → TasksOk s' → TasksKeep s s' → I s') :
    Stable (sem cfg entry) I := by
  intro s s' h hst
  obtain ⟨hT, hkeep⟩ := (hI s h).step hentry hst
  exact hk s s' h hT hkeep

theorem Starts.tasksOk {s : System} (h : Starts s) : TasksOk s := by
  intro t
  obtain ⟨b, hb⟩ := h.idle t
  rw [hb]
  exact h.enqueued t

/-! ## Serving an item -/

/-- The calls that the controller makes once a queue is selected. -/
def Call.Serving : Call → Prop
  | .xQueueReceive _ _ | .serve _ _ | .uxQueueMessagesWaiting _ | .loadQueueList | .vTaskPrioritySet _ => True
  | _ => False

/-- The calls of serving once the item is taken. -/
def Call.Finishing : Call → Prop
  | .serve _ _ | .uxQueueMessagesWaiting _ | .loadQueueList | .vTaskPrioritySet _ => True
  | _ => False

theorem Call.Finishing.serving (o : Call) (ho : o.Finishing) : o.Serving := by
  cases o <;> trivial

theorem prvMaxPriority_finishing (x : Nat) (qs : List NetworkQueue) :
    (prvMaxPriority x qs).Within Call.Finishing := by
  induction qs generalizing x with
  | nil => trivial
  | cons q qs ih =>
      simp only [prvMaxPriority, xNetworkQueueIsEmpty, call_eq, Prog.call_bind, Prog.ret_bind, Prog.pure_eq]
      refine ⟨trivial, fun n => ?_⟩
      dsimp only
      split
      · exact ih x
      · exact ih _

theorem vTSNControllerComputePriority_finishing :
    (vTSNControllerComputePriority cfg).Within Call.Finishing := by
  simp only [vTSNControllerComputePriority, call_eq, Prog.call_bind, Prog.ret_bind]
  exact ⟨trivial, fun qs => (prvMaxPriority_finishing _ qs).bind fun _ => ⟨trivial, fun _ => trivial⟩⟩

/-- What every call of serving keeps holds when the controller is back in its loop. -/
theorem prvTSNControllerServeQueue_wp {pre : Call → System → Prop} {I : System → Prop}
    (hI : Stable (sem cfg entry) I) (hpre : ∀ o s, o.Serving → pre o s)
    (hstep : ∀ (o : Call) s r w', o.Serving → I s → Acts cfg o s.w r w' → I (s.called ⟨o, r⟩ w'))
    (q : NetworkQueue) {s : System} (h : I s) :
    wp (sem cfg entry) pre (prvTSNControllerServeQueue cfg q) (fun l s => l = .inner ∧ I s) s := by
  have hinner : ∀ s, I s → wp (sem cfg entry) pre (.ret ControllerLoop.inner) (fun l s => l = .inner ∧ I s) s :=
    fun s h => wp.ret_of_stable hI h fun _ h => ⟨rfl, h⟩
  simp only [prvTSNControllerServeQueue, xNetworkQueuePop, xNetworkQueueIsEmpty, call_eq, Prog.call_bind,
    Prog.ret_bind, Prog.pure_eq]
  refine wp_call hI h (fun s _ => hpre _ s trivial) ?_
  rintro s (_ | xItem) w' h hw
  · exact hinner _ (hstep (.xQueueReceive q.xQueue 0) _ _ _ trivial h hw)
  · refine wp_call hI (hstep (.xQueueReceive q.xQueue 0) _ _ _ trivial h hw) (fun s _ => hpre _ s trivial) ?_
    intro s _ w' h hw
    replace h := hstep (.serve q xItem) _ _ _ trivial h hw
    cases cfg.tsnconfigControllerHasDynamicPrio with
    | false => exact hinner _ h
    | true =>
        refine wp_call hI h (fun s _ => hpre _ s trivial) ?_
        intro s n w' h hw
        replace h := hstep (.uxQueueMessagesWaiting q.xQueue) _ _ _ trivial h hw
        cases n == 0 with
        | false => exact hinner _ h
        | true =>
            refine wp.bind (wp.mono (fun _ => hinner) ?_)
            refine wp.frame (vTSNControllerComputePriority_finishing.mono Call.Finishing.serving) hI h
              (fun o s ho _ => hpre o s ho) ?_
            rintro o s r _ ho h ⟨w', hw, rfl⟩
            exact hstep o s r w' ho h hw

/-! ## Scheduling -/

/-- The calls that the controller makes while it sleeps and selects a queue. -/
def Call.Scheduling : Call → Prop
  | .xTaskGetTickCount | .uxQueueMessagesWaiting _ | .xQueuePeek _ | .ulTaskNotifyTake _ _ | .loadNextActivation _
  | .storeNextActivation _ _ | .loadNextWakeup | .storeNextWakeup _ | .loadBuf _ | .fault _ => True
  | _ => False

/-- A call of scheduling takes no item. -/
structure SameQueues (w w' : World) : Prop where
  queues : w'.queues = w.queues
  pxNetworkQueueList : w'.pxNetworkQueueList = w.pxNetworkQueueList
  uxPriority : w'.uxPriority = w.uxPriority

theorem Acts.scheduling {o : Call} {w w' : World} {r : Call.Res o} (ho : o.Scheduling) (h : Acts cfg o w r w') :
    SameQueues w w' := by
  cases o with
  | xTaskGetTickCount | uxQueueMessagesWaiting | xQueuePeek | loadNextActivation | storeNextActivation
  | loadNextWakeup | storeNextWakeup | loadBuf => cases h; exact ⟨rfl, rfl, rfl⟩
  | ulTaskNotifyTake b t => cases h; exact ⟨rfl, rfl, rfl⟩
  | fault f => cases h
  | _ => exact ho.elim

theorem fault_scheduling {α : Type} (f : Fault) : (fault f : P α).Within Call.Scheduling :=
  ⟨trivial, fun r => r.elim⟩

theorem deref_scheduling {α : Type} (a : Option α) : (deref a).Within Call.Scheduling := by
  cases a with
  | none => exact fault_scheduling _
  | some a => trivial

theorem pxPeekNextPacket_scheduling (q : Option NetworkQueue) : (pxPeekNextPacket q).Within Call.Scheduling := by
  refine (deref_scheduling q).bind fun q => ?_
  simp only [call_eq, Prog.call_bind, Prog.ret_bind]
  refine ⟨trivial, fun r => ?_⟩
  cases r <;> trivial

theorem vNetworkQueueAddWakeupEvent_scheduling (uxTime : Nat) :
    (vNetworkQueueAddWakeupEvent uxTime).Within Call.Scheduling := by
  simp only [vNetworkQueueAddWakeupEvent, call_eq, Prog.call_bind, Prog.ret_bind]
  refine ⟨trivial, fun uxNow => ⟨trivial, fun uxNextWakeup => ?_⟩⟩
  dsimp only
  split
  · exact ⟨trivial, fun _ => trivial⟩
  · trivial

theorem prvCBSReady_scheduling (c : SchedulerCBS) (q : Option NetworkQueue) :
    (prvCBSReady cfg c q).Within Call.Scheduling := by
  simp only [prvCBSReady, call_eq, Prog.call_bind, Prog.ret_bind]
  refine ⟨trivial, fun uxNow => ⟨trivial, fun uxTime => ?_⟩⟩
  dsimp only
  split
  · refine (pxPeekNextPacket_scheduling q).bind fun b => ?_
    refine (deref_scheduling b).bind fun b => ⟨trivial, fun d => ?_⟩
    dsimp only
    split
    · exact fault_scheduling _
    · exact ⟨trivial, fun _ => trivial⟩
  · refine (vNetworkQueueAddWakeupEvent_scheduling _).bind fun _ => ?_
    trivial

theorem prvCallTerminal_scheduling (q : NetworkQueue) : (prvCallTerminal q).Within Call.Scheduling := by
  simp only [prvCallTerminal, xNetworkQueueIsEmpty, call_eq, Prog.call_bind, Prog.ret_bind, Prog.pure_eq]
  refine ⟨trivial, fun n => ?_⟩
  dsimp only
  split <;> trivial

theorem netschedCallReadyFromNode_scheduling (g : SchedulerGeneric) (q : Option NetworkQueue) :
    (netschedCallReadyFromNode cfg g q).Within Call.Scheduling := by
  rw [netschedCallReadyFromNode]
  cases g.fnReady with
  | prvAlwaysReady => trivial
  | prvCBSReady c => exact prvCBSReady_scheduling c q

mutual
theorem pxNetworkSchedulerCall_scheduling :
    (n : NetworkNode) → (pxNetworkSchedulerCall cfg n).Within Call.Scheduling
  | .null => fault_scheduling _
  | .mk n g q next => by
      simp only [pxNetworkSchedulerCall]
      refine (netschedCallReadyFromNode_scheduling g q).bind fun ready => ?_
      cases ready with
      | false => trivial
      | true =>
          cases q with
          | some q => exact prvCallTerminal_scheduling q
          | none =>
              cases hsel : g.fnSelect with
              | prvSelectFirst => exact prvSelectFirst_scheduling next
              | prvPrioritySelect => exact prvPrioritySelect_scheduling n next

theorem prvSelectFirst_scheduling : (ns : List NetworkNode) → (prvSelectFirst cfg ns).Within Call.Scheduling
  | [] => fault_scheduling _
  | child :: _ => pxNetworkSchedulerCall_scheduling child

theorem prvPrioritySelect_scheduling : (n : Nat) → (ns : List NetworkNode) →
    (prvPrioritySelect cfg n ns).Within Call.Scheduling
  | 0, _ => by
      simp only [prvPrioritySelect]
      trivial
  | _ + 1, [] => fault_scheduling _
  | n + 1, child :: ns => by
      simp only [prvPrioritySelect]
      refine (pxNetworkSchedulerCall_scheduling child).bind fun r => ?_
      cases r with
      | some q => trivial
      | none => exact prvPrioritySelect_scheduling n ns
end

theorem xNetworkQueueSchedule_scheduling (root : NetworkNode) :
    (xNetworkQueueSchedule cfg root).Within Call.Scheduling := by
  cases root with
  | null => trivial
  | mk => exact pxNetworkSchedulerCall_scheduling _

theorem prvTSNControllerWait_scheduling (uxTicks : Nat) : (prvTSNControllerWait uxTicks).Within Call.Scheduling :=
  ⟨trivial, fun _ => trivial⟩

theorem prvTSNControllerSleep_scheduling : (prvTSNControllerSleep cfg).Within Call.Scheduling := by
  rw [prvTSNControllerSleep_eq]
  refine ⟨trivial, fun uxNow => ⟨trivial, fun uxNextWakeup => ?_⟩⟩
  dsimp only
  rw [prvTSNControllerResample]
  split
  · exact ⟨trivial, fun _ => ⟨trivial, fun _ => prvTSNControllerWait_scheduling _⟩⟩
  · exact prvTSNControllerWait_scheduling _

end FreeRtosTsn.Scheduler
