import FreeRtosTsn.Scheduler.Controller

/-!
# The controller among the tasks that push

The controller runs its loops while any number of tasks push items and time passes, one call at a time.
`enqueued`, `untaken` and `round` are records of the run that no code reads.
-/

namespace FreeRtosTsn.Scheduler

open Lib Kernel

abbrev Event := (o : Call) × Call.Res o

structure System where
  w : World
  /-- What is left of the push that each task is in; a task that ended its push may start another. -/
  tasks : Nat → P Bool
  /-- The queue that a task has sent an item to without having notified the controller yet. -/
  enqueued : Nat → Option QueueHandle
  /-- The notifications that the controller has not taken. -/
  untaken : Nat
  /-- The calls of the controller since it last began to schedule. -/
  round : List Event

/-- How a call of a task changes what the task has yet to notify. -/
def Call.pending : (o : Call) → Call.Res o → Option QueueHandle → Option QueueHandle
  | .xQueueSendToBack q _ _, sent, old => if sent then some q else old
  | .xTaskNotifyGive, _, _ => none
  | _, _, old => old

/-- How a call changes the number of notifications that are not taken. One that does not clear the value takes one of
them, if the value shows any. -/
def Call.untaken : Call → Nat → Nat
  | .xTaskNotifyGive, n => n + 1
  | .ulTaskNotifyTake true _, _ => 0
  | .ulTaskNotifyTake false _, n => if wrap32 n = 0 then n else n - 1
  | _, n => n

/-- The part of the state that the scheduler owns is the same. -/
structure SameScheduler (w w' : World) : Prop where
  queues : w'.queues = w.queues
  ulNotifiedValue : w'.ulNotifiedValue = w.ulNotifiedValue
  uxNextActivation : w'.uxNextActivation = w.uxNextActivation
  uxNextWakeup : w'.uxNextWakeup = w.uxNextWakeup
  xTickCount : w'.xTickCount = w.xTickCount

/-- The effect of a call. Serving an item may change everything but the scheduler. -/
def Acts (cfg : Config) (o : Call) (w : World) (r : Call.Res o) (w' : World) : Prop :=
  match o with
  | .serve _ _ => SameScheduler w w'
  | o => effect cfg o w = .ok r w'

/-- The controller made the call `e`, which led to `w`. -/
def System.called (s : System) (e : Event) (w : World) : System :=
  { s with w := w, round := s.round ++ [e], untaken := e.1.untaken s.untaken }

def ControllerStep (cfg : Config) (o : Call) (s : System) (r : Call.Res o) (s' : System) : Prop :=
  ∃ w', Acts cfg o s.w r w' ∧ s' = s.called ⟨o, r⟩ w'

/-- A step of a task that starts one of the programs in `entry`, or makes its next call; or a tick. -/
inductive TaskStep (cfg : Config) (entry : P Bool → Prop) : System → System → Prop
  | start {s : System} {t : Nat} {b : Bool} {p : P Bool} : s.tasks t = .ret b → entry p →
      TaskStep cfg entry s { s with tasks := Function.update s.tasks t p }
  | call {s : System} {t : Nat} {o : Call} {k : Call.Res o → P Bool} {r : Call.Res o} {w' : World} :
      s.tasks t = .call (σ := Calls) o k → effect cfg o s.w = .ok r w' →
      TaskStep cfg entry s { s with
        w := w'
        tasks := Function.update s.tasks t (k r)
        enqueued := Function.update s.enqueued t (o.pending r (s.enqueued t))
        untaken := o.untaken s.untaken }
  | tick {s : System} :
      TaskStep cfg entry s { s with w := { s.w with xTickCount := s.w.xTickCount + 1 } }

def sem (cfg : Config) (entry : P Bool → Prop) : Sem Calls System := ⟨ControllerStep cfg, TaskStep cfg entry⟩

theorem wp_call {cfg : Config} {entry : P Bool → Prop} {pre : Call → System → Prop} {α : Type} {o : Call}
    {k : Call.Res o → P α} {I : System → Prop} {Q : α → System → Prop} {s : System}
    (hI : Stable (sem cfg entry) I) (hs : I s) (hpre : ∀ s, I s → pre o s)
    (hk : ∀ s r w', I s → Acts cfg o s.w r w' →
      wp (sem cfg entry) pre (k r) Q (s.called ⟨o, r⟩ w')) :
    wp (sem cfg entry) pre (.call (σ := Calls) o k) Q s :=
  wp.call_of_stable hI hs hpre fun s r _ h ⟨w', hw, he⟩ => he ▸ hk s r w' h hw

theorem fault_wp {cfg : Config} {entry : P Bool → Prop} {pre : Call → System → Prop} {α : Type} {f : Fault}
    {Q : α → System → Prop} {s : System} (hpre : ∀ s, pre (.fault f) s) :
    wp (sem cfg entry) pre (fault f) Q s :=
  fun s' _ => ⟨hpre s', fun r => nomatch r⟩

/-- The controller as a thread. A scheduling round begins where the inner loop does. -/
def controller (cfg : Config) (pxNetworkQueueRoot : NetworkNode) : Loops Calls System ControllerLoop where
  body := prvTSNController cfg pxNetworkQueueRoot
  enter
    | .outer, s => s
    | .inner, s => { s with round := [] }

def Pushes (cfg : Config) (p : P Bool) : Prop :=
  ∃ pxQueue pxItem uxTimeout, p = xNetworkQueuePush cfg pxQueue pxItem uxTimeout

/-- No task is in a push and the queues are empty. -/
structure Starts (s : System) : Prop where
  idle : ∀ t, ∃ b, s.tasks t = .ret b
  enqueued : ∀ t, s.enqueued t = none
  queues : ∀ q, s.w.queues q = []
  round : s.round = []

/-- What the calls of a round show: the tick that was last sampled, and the credit based schedulers that were not
ready at the tick they sampled, with their activations. -/
structure RoundRecord where
  uxNow : Nat := 0
  notReady : List (CbsId × Nat) := []

def RoundRecord.add (r : RoundRecord) : Event → RoundRecord
  | ⟨.xTaskGetTickCount, uxNow⟩ => { r with uxNow := uxNow }
  | ⟨.loadNextActivation id, uxTime⟩ =>
      if r.uxNow < uxTime then { r with notReady := r.notReady ++ [(id, uxTime)] } else r
  | _ => r

def System.record (s : System) : RoundRecord := s.round.foldl .add {}

@[simp] theorem System.called_w (s : System) (e : Event) (w : World) : (s.called e w).w = w := rfl

@[simp] theorem System.called_tasks (s : System) (e : Event) (w : World) : (s.called e w).tasks = s.tasks := rfl

@[simp] theorem System.called_enqueued (s : System) (e : Event) (w : World) :
    (s.called e w).enqueued = s.enqueued := rfl

@[simp] theorem System.called_untaken (s : System) (e : Event) (w : World) :
    (s.called e w).untaken = e.1.untaken s.untaken := rfl

@[simp] theorem System.record_called (s : System) (e : Event) (w : World) :
    (s.called e w).record = s.record.add e := by
  simp [System.record, System.called, List.foldl_append]

/-- A sleep of `uxTicks` ends no later than the activations that the round found ahead, and is no sleep at all
when one of them has come. -/
def RoundRecord.EndsInTime (r : RoundRecord) (uxTicks : Nat) : Prop :=
  ∀ a ∈ r.notReady, (r.uxNow < a.2 → uxTicks ≤ a.2 - r.uxNow) ∧ (a.2 ≤ r.uxNow → uxTicks = 0)

/-- No wakeup event was added yet, and the activations are ticks. -/
structure StartsShaped (s : System) : Prop extends Starts s where
  uxNextWakeup : s.w.uxNextWakeup = 0
  uxNextActivation : ∀ id, s.w.uxNextActivation id < 2 ^ 32

/-- The states of the controller and the system from its creation on. -/
def Reachable (cfg : Config) (pxNetworkQueueRoot : NetworkNode) (entry : P Bool → Prop) (s₀ : System)
    (c : P ControllerLoop × System) : Prop :=
  (controller cfg pxNetworkQueueRoot).Reach (sem cfg entry) (prvTSNController cfg pxNetworkQueueRoot .outer, s₀) c

section Reachable

variable {cfg : Config} {root : NetworkNode} {entry : P Bool → Prop} {s₀ s s' : System}

theorem Reachable.start : Reachable cfg root entry s₀ (prvTSNController cfg root .outer, s₀) := .refl

theorem Reachable.call {o : Call} {k : Call.Res o → P ControllerLoop} {r : Call.Res o} {w' : World}
    (h : Reachable cfg root entry s₀ (.call (σ := Calls) o k, s)) (hw : Acts cfg o s.w r w') :
    Reachable cfg root entry s₀ (k r, s.called ⟨o, r⟩ w') := h.tail (.call ⟨w', hw, rfl⟩)

theorem Reachable.loop {l : ControllerLoop} (h : Reachable cfg root entry s₀ (.ret l, s)) :
    Reachable cfg root entry s₀ (prvTSNController cfg root l, (controller cfg root).enter l s) := h.tail .loop

theorem Reachable.task {p : P ControllerLoop} (h : Reachable cfg root entry s₀ (p, s))
    (ht : TaskStep cfg entry s s') : Reachable cfg root entry s₀ (p, s') := h.tail (.env ht)

/-- The controller takes the first sample for its sleep, with no other step in between. -/
theorem Reachable.samples (h : Reachable cfg root entry s₀ (prvTSNController cfg root .outer, s)) :
    Reachable cfg root entry s₀ (prvTSNControllerResample cfg (uxTicksUntil (wrap32 s.w.xTickCount) s.w.uxNextWakeup),
      (s.called ⟨.xTaskGetTickCount, wrap32 s.w.xTickCount⟩ s.w).called ⟨.loadNextWakeup, s.w.uxNextWakeup⟩ s.w) := by
  rw [prvTSNController, prvTSNControllerSleep_eq] at h
  exact (h.call rfl).call rfl

/-- The sleep is shorter than the longest one, so the controller samples again. -/
theorem Reachable.samplesAgain {uxFirst uxTicks : Nat}
    (h : Reachable cfg root entry s₀ (prvTSNControllerResample cfg uxFirst, s)) (hlt : uxFirst < uxMaxSleep cfg)
    (hticks : uxTicksUntil (wrap32 s.w.xTickCount) s.w.uxNextWakeup = uxTicks) :
    Reachable cfg root entry s₀ (prvTSNControllerWait uxTicks,
      (s.called ⟨.xTaskGetTickCount, wrap32 s.w.xTickCount⟩ s.w).called ⟨.loadNextWakeup, s.w.uxNextWakeup⟩ s.w) := by
  rw [prvTSNControllerResample, if_pos hlt] at h
  subst hticks
  exact (h.call rfl).call rfl

/-- The sleep is the longest one. -/
theorem Reachable.samplesOnce {uxTicks : Nat} (h : Reachable cfg root entry s₀ (prvTSNControllerResample cfg uxTicks, s))
    (hle : uxMaxSleep cfg ≤ uxTicks) :
    Reachable cfg root entry s₀ (prvTSNControllerWait (uxMaxSleep cfg), s) := by
  rwa [prvTSNControllerResample, if_neg (Nat.not_lt.mpr hle)] at h

end Reachable

/-! ## Tasks that push -/

/-- A call that a task may make outside the controller: none that takes an item, takes a notification or writes
the scheduler's variables. -/
def Call.ByTask : Call → Prop
  | .xQueueSendToBack _ _ _ | .xTaskNotifyGive | .uxTaskPriorityGet | .vTaskPrioritySet _ | .loadQueueList
  | .loadBuf _ | .fault _ => True
  | _ => False

/-- A program that notifies the controller after each item it sends, before it sends another and before it ends.
`q` is what it has yet to notify. -/
def Notifies : P Bool → Option QueueHandle → Prop
  | .ret _, q => q = none
  | .call o k, q => Call.ByTask o ∧ ((∃ h i t, o = .xQueueSendToBack h i t) → q = none) ∧
      ∀ r, Notifies (k r) (o.pending r q)

theorem xNetworkQueuePush_notifies (cfg : Config) (pxQueue : NetworkQueue) (pxItem : NetworkQueueItem)
    (uxTimeout : Nat) : Notifies (xNetworkQueuePush cfg pxQueue pxItem uxTimeout) none := by
  simp only [xNetworkQueuePush, call_eq, Prog.call_bind, Prog.ret_bind, Notifies]
  refine ⟨trivial, fun _ => trivial, fun sent => ?_⟩
  cases sent with
  | false => rfl
  | true =>
      cases hp : cfg.tsnconfigControllerHasDynamicPrio with
      | false => simp [xNotifyController, Notifies, Call.ByTask, Call.pending]
      | true =>
          simp only [↓reduceIte, xTSNControllerUpdatePriority, hp, call_eq, Prog.call_bind, Prog.ret_bind, Notifies,
            Call.pending]
          refine ⟨trivial, by simp, fun uxCurrent => ?_⟩
          by_cases h : uxCurrent < pxQueue.uxIPV <;>
            simp [h, xNotifyController, Notifies, Call.ByTask, Call.pending]

end FreeRtosTsn.Scheduler
