import FreeRtosTsn.Scheduler.Priority
import FreeRtosTsn.Scheduler.Lemmas.Tasks

/-!
# What keeps the priority due

Outside of a recompute the priority is below that of a waiting queue only as long as a push has yet to raise it,
and above the base only as long as an item justifies it. The steps of a push and the calls of the controller keep
this when their changes of the priority are timely.
-/

namespace FreeRtosTsn.Scheduler

open Lib Kernel

variable {cfg : Config} {qs : List NetworkQueue}

/-! ## The steps of a push -/

/-- The call that a program makes first. -/
def firstCall : P Bool → Option Call
  | .ret _ => none
  | .call o _ => some o

theorem raising_eq (hdyn : cfg.tsnconfigControllerHasDynamicPrio = true) (v : Nat) :
    raising cfg v = .call (σ := Calls) .uxTaskPriorityGet fun u => if u < v then setting v else notifying := by
  simp only [raising, xTSNControllerUpdatePriority, hdyn, ↓reduceIte, call_eq, Prog.call_bind, Prog.ret_bind]
  refine congrArg _ (funext fun u => ?_)
  by_cases hu : u < v
  · simp [hu, setting]
  · simp [hu, notifying]

theorem notifying_eq : notifying = .call (σ := Calls) .xTaskNotifyGive fun _ => .ret true := rfl

theorem xNetworkQueuePush_eq (hdyn : cfg.tsnconfigControllerHasDynamicPrio = true) (q : NetworkQueue)
    (i : NetworkQueueItem) (t : Nat) :
    xNetworkQueuePush cfg q i t = .call (σ := Calls) (.xQueueSendToBack q.xQueue i t) fun sent =>
      if sent then raising cfg q.uxIPV else .ret false := by
  simp only [xNetworkQueuePush, hdyn, ↓reduceIte, call_eq, Prog.call_bind, Prog.ret_bind, raising, Prog.pure_eq]

/-- How far a task is in a push to one of the queues `qs`. -/
inductive PushState (cfg : Config) (qs : List NetworkQueue) : P Bool → Prop
  | ended (b : Bool) : PushState cfg qs (.ret b)
  | sending {q : NetworkQueue} (hq : q ∈ qs) (i : NetworkQueueItem) (t : Nat) :
      PushState cfg qs (xNetworkQueuePush cfg q i t)
  | raising (v : Nat) : PushState cfg qs (raising cfg v)
  | setting (v : Nat) : PushState cfg qs (setting v)
  | notifying : PushState cfg qs notifying

/-- What a call of a push does. -/
inductive PushStep (cfg : Config) (qs : List NetworkQueue) (w : World) : P Bool → P Bool → World → Prop
  | send {q : NetworkQueue} {i : NetworkQueueItem} {t : Nat} : q ∈ qs →
      PushStep cfg qs w (xNetworkQueuePush cfg q i t) (raising cfg q.uxIPV)
        { w with queues := Function.update w.queues q.xQueue (w.queues q.xQueue ++ [i]) }
  | full {q : NetworkQueue} {i : NetworkQueueItem} {t : Nat} :
      PushStep cfg qs w (xNetworkQueuePush cfg q i t) (.ret false) w
  | read {v : Nat} : PushStep cfg qs w (raising cfg v) (if w.uxPriority < v then setting v else notifying) w
  | set {v : Nat} : PushStep cfg qs w (setting v) notifying { w with uxPriority := v }
  | notify : PushStep cfg qs w notifying (.ret true) { w with ulNotifiedValue := wrap32 (w.ulNotifiedValue + 1) }

theorem PushState.step (hdyn : cfg.tsnconfigControllerHasDynamicPrio = true) {o : Call} {k : Call.Res o → P Bool}
    {r : Call.Res o} {w w' : World} (h : PushState cfg qs (.call (σ := Calls) o k))
    (he : effect cfg o w = .ok r w') : PushStep cfg qs w (.call (σ := Calls) o k) (k r) w' := by
  generalize hp : (Prog.call (σ := Calls) o k : P Bool) = p at h
  cases h with
  | ended b => cases hp
  | sending hq i t =>
      have hstep := hp
      rw [xNetworkQueuePush_eq hdyn] at hstep
      cases hstep
      rw [effect_xQueueSendToBack] at he
      split at he
      · cases he
        exact .send hq
      · cases he
        exact .full
  | raising v =>
      have hstep := hp
      rw [raising_eq hdyn] at hstep
      cases hstep
      cases he
      exact .read
  | setting v =>
      cases hp
      cases he
      exact .set
  | notifying =>
      cases hp
      cases he
      exact .notify

theorem PushStep.state {w w' : World} {p p' : P Bool} (h : PushStep cfg qs w p p' w') : PushState cfg qs p' := by
  cases h with
  | send => exact .raising _
  | full => exact .ended false
  | read => split <;> constructor
  | set => exact .notifying
  | notify => exact .ended true

/-! ## What a task has yet to raise -/

theorem not_raises {p : P Bool} (hdyn : cfg.tsnconfigControllerHasDynamicPrio = true)
    (hget : firstCall p ≠ some .uxTaskPriorityGet) (hset : ∀ v, firstCall p ≠ some (.vTaskPrioritySet v)) (v : Nat) :
    ¬ Raises cfg p v := by
  rintro ⟨v', -, rfl | rfl⟩
  · rw [raising_eq hdyn] at hget
    exact hget rfl
  · exact hset v' rfl

theorem raises_setting (hdyn : cfg.tsnconfigControllerHasDynamicPrio = true) {v v' : Nat}
    (h : Raises cfg (setting v) v') : v' ≤ v := by
  obtain ⟨u, hle, hu | hu⟩ := h
  · have hc := congrArg firstCall hu
    rw [raising_eq hdyn] at hc
    cases hc
  · have hc := congrArg firstCall hu
    cases hc
    exact hle

/-- A push that reads a lower priority than it is to raise still raises it. -/
theorem raises_read (hdyn : cfg.tsnconfigControllerHasDynamicPrio = true) {u v v' : Nat}
    (h : Raises cfg (raising cfg v) v') (hu : u < v') :
    Raises cfg (if u < v then setting v else notifying) v' := by
  obtain ⟨x, hle, hx | hx⟩ := h
  · rw [raising_eq hdyn, raising_eq hdyn] at hx
    have hk := congrFun (eq_of_heq (Prog.call.inj hx).2) u
    rw [hk, if_pos (Nat.lt_of_lt_of_le hu hle)]
    exact ⟨x, hle, Or.inr rfl⟩
  · have hc := congrArg firstCall hx
    rw [raising_eq hdyn] at hc
    cases hc

/-! ## The invariant -/

/-- The priority is not too low but for pushes that have yet to raise it, and not too high. -/
structure PriorityFits (cfg : Config) (s : System) : Prop where
  base : controllerTsnTaskBasePrio cfg ≤ s.w.uxPriority
  notBelow : ∀ q, s.Waits q → s.w.uxPriority < q.uxIPV → s.Pending cfg q.uxIPV
  notAbove : s.w.uxPriority ≤ controllerTsnTaskBasePrio cfg ∨ s.Justifies s.w.uxPriority

structure PriorityInv (cfg : Config) (qs : List NetworkQueue) (s : System) : Prop where
  list : s.w.pxNetworkQueueList = qs
  tasks : ∀ t, PushState cfg qs (s.tasks t)
  fits : (∀ found, s.stage ≠ .recomputing found) → PriorityFits cfg s

/-- A task that goes on keeps what is pending if it keeps what it raises itself. -/
theorem pending_update {s s' : System} {t : Nat} {p' : P Bool} {v : Nat}
    (ht : s'.tasks = Function.update s.tasks t p') (hkeep : Raises cfg (s.tasks t) v → Raises cfg p' v)
    (h : s.Pending cfg v) : s'.Pending cfg v := by
  obtain ⟨u, hu⟩ := h
  refine ⟨u, ?_⟩
  by_cases hut : u = t
  · subst hut
    simpa [ht] using hkeep hu
  · simpa [ht, Function.update_of_ne hut] using hu

/-- The queues, the list and the stage of the controller are the same. -/
structure SameItems (s s' : System) : Prop where
  list : s'.w.pxNetworkQueueList = s.w.pxNetworkQueueList
  queues : s'.w.queues = s.w.queues
  stage : s'.stage = s.stage

theorem SameItems.waits {s s' : System} (h : SameItems s s') {q : NetworkQueue} (hw : s'.Waits q) : s.Waits q := by
  rw [System.Waits, h.list, h.queues] at hw
  exact hw

theorem SameItems.justifies {s s' : System} (h : SameItems s s') {v : Nat} (hj : s.Justifies v) :
    s'.Justifies v := by
  rw [System.Justifies, h.list, h.queues, h.stage]
  exact hj

/-- The priority is the same, and what is still to be raised above it. -/
theorem PriorityFits.keep {s s' : System} (h : PriorityFits cfg s) (hi : SameItems s s')
    (hp : s'.w.uxPriority = s.w.uxPriority)
    (hpend : ∀ v, s.w.uxPriority < v → s.Pending cfg v → s'.Pending cfg v) : PriorityFits cfg s' where
  base := hp ▸ h.base
  notBelow q hw hlt := by
    rw [hp] at hlt
    exact hpend _ hlt (h.notBelow q (hi.waits hw) hlt)
  notAbove := by
    rw [hp]
    exact h.notAbove.imp_right hi.justifies

/-- A push sent its item, and is to raise the priority for it. -/
theorem PriorityFits.send {s s' : System} (h : PriorityFits cfg s) {q : NetworkQueue} {i : NetworkQueueItem}
    (hdistinct : ∀ q' ∈ s.w.pxNetworkQueueList, q'.xQueue = q.xQueue → q' = q)
    (hw : s'.w = { s.w with queues := Function.update s.w.queues q.xQueue (s.w.queues q.xQueue ++ [i]) })
    (hstage : s'.stage = s.stage) (hq : s'.Pending cfg q.uxIPV)
    (hpend : ∀ v, s.Pending cfg v → s'.Pending cfg v) : PriorityFits cfg s' where
  base := by simpa [hw] using h.base
  notBelow q' hwait hlt := by
    simp only [hw] at hlt
    simp only [System.Waits, hw] at hwait
    by_cases hqq : q'.xQueue = q.xQueue
    · rw [hdistinct q' hwait.1 hqq]
      exact hq
    · rw [Function.update_of_ne hqq] at hwait
      exact hpend _ (h.notBelow q' hwait hlt)
  notAbove := by
    simp only [hw]
    refine h.notAbove.imp_right ?_
    rintro ⟨q', hq', hle, hheld⟩
    refine ⟨q', by simpa [hw] using hq', hle, ?_⟩
    rw [hstage]
    refine hheld.imp_left fun hne => ?_
    by_cases hqq : q'.xQueue = q.xQueue
    · simp [hw, hqq]
    · simpa [hw, Function.update_of_ne hqq] using hne

theorem PriorityFits.raise {s s' : System} (h : PriorityFits cfg s) {v : Nat} (hi : SameItems s s')
    (hp : s'.w.uxPriority = v) (hle : s.w.uxPriority ≤ v) (hj : s.Justifies v)
    (hpend : ∀ u, v < u → s.Pending cfg u → s'.Pending cfg u) : PriorityFits cfg s' where
  base := by
    rw [hp]
    exact Nat.le_trans h.base hle
  notBelow q hw hlt := by
    rw [hp] at hlt
    exact hpend _ hlt (h.notBelow q (hi.waits hw) (Nat.lt_of_le_of_lt hle hlt))
  notAbove := by
    rw [hp]
    exact Or.inr (hi.justifies hj)

/-- Distinct queues have distinct queues of the kernel. -/
def QueuesDistinct (qs : List NetworkQueue) : Prop := ∀ q ∈ qs, ∀ q' ∈ qs, q.xQueue = q'.xQueue → q = q'

theorem PriorityInv.call (hdyn : cfg.tsnconfigControllerHasDynamicPrio = true) (hdistinct : QueuesDistinct qs)
    {s s' : System} {t : Nat} {p' : P Bool} (h : PriorityInv cfg qs s)
    (hst : PushStep cfg qs s.w (s.tasks t) p' s'.w) (htasks : s'.tasks = Function.update s.tasks t p')
    (hround : s'.round = s.round) (hraise : s'.w.uxPriority ≠ s.w.uxPriority → RaiseTimely s s'.w.uxPriority) :
    PriorityInv cfg qs s' := by
  have hstage : s'.stage = s.stage := by rw [System.stage, System.stage, hround]
  have hall : ∀ u, PushState cfg qs (s'.tasks u) := by
    intro u
    by_cases hut : u = t
    · subst hut
      simpa [htasks] using hst.state
    · simpa [htasks, Function.update_of_ne hut] using h.tasks u
  have hself : s'.tasks t = p' := by simp [htasks]
  have hlist : s'.w.pxNetworkQueueList = s.w.pxNetworkQueueList := by
    generalize s.tasks t = p at hst
    generalize s'.w = w' at hst ⊢
    cases hst <;> rfl
  refine ⟨hlist.trans h.list, hall, fun hnot => ?_⟩
  rw [hstage] at hnot
  have hfits := h.fits hnot
  generalize hp : s.tasks t = p at hst
  generalize hw : s'.w = w' at hst
  have hsame : w'.queues = s.w.queues → SameItems s s' := fun hq => ⟨hlist, by rw [hw, hq], hstage⟩
  cases hst with
  | @send q i timeout hq =>
      have hnone : ∀ v, ¬ Raises cfg (s.tasks t) v := by
        rw [hp, xNetworkQueuePush_eq hdyn]
        exact not_raises hdyn (by simp [firstCall]) (by simp [firstCall])
      refine hfits.send (fun q' hq' hqq => hdistinct q' (h.list ▸ hq') q hq hqq) hw hstage ?_ fun v hv => ?_
      · exact ⟨t, q.uxIPV, Nat.le_refl _, Or.inl hself⟩
      · exact pending_update htasks (fun hr => absurd hr (hnone v)) hv
  | full =>
      have hnone : ∀ v, ¬ Raises cfg (s.tasks t) v := by
        rw [hp, xNetworkQueuePush_eq hdyn]
        exact not_raises hdyn (by simp [firstCall]) (by simp [firstCall])
      refine hfits.keep (hsame rfl) (by rw [hw]) fun v _ hv => ?_
      exact pending_update htasks (fun hr => absurd hr (hnone v)) hv
  | read =>
      refine hfits.keep (hsame rfl) (by rw [hw]) fun v hlt hv => ?_
      refine pending_update htasks (fun hr => ?_) hv
      rw [hp] at hr
      exact raises_read hdyn hr hlt
  | @set v =>
      have hpend : ∀ u, v < u → s.Pending cfg u → s'.Pending cfg u := by
        intro u hlt hu
        refine pending_update htasks (fun hr => ?_) hu
        rw [hp] at hr
        exact absurd (raises_setting hdyn hr) (Nat.not_le_of_lt hlt)
      by_cases hv : v = s.w.uxPriority
      · exact hfits.keep (hsame rfl) (by rw [hw, hv]) (hv ▸ hpend)
      · rw [hw] at hraise
        rcases hraise hv with ⟨found, hre⟩ | ⟨hle, hj⟩
        · exact absurd hre (hnot found)
        · exact hfits.raise (hsame rfl) (by rw [hw]) hle hj hpend
  | notify =>
      have hnone : ∀ v, ¬ Raises cfg (s.tasks t) v := by
        rw [hp, notifying_eq]
        exact not_raises hdyn (by simp [firstCall]) (by simp [firstCall])
      refine hfits.keep (hsame rfl) (by rw [hw]) fun v _ hv => ?_
      exact pending_update htasks (fun hr => absurd hr (hnone v)) hv

theorem PriorityInv.stable (hdyn : cfg.tsnconfigControllerHasDynamicPrio = true) (hdistinct : QueuesDistinct qs) :
    Stable (prioritySem cfg (PushesTo cfg qs)) (PriorityInv cfg qs) := by
  rintro s s' h ⟨hst, hraise⟩
  cases hst with
  | @start t b p ht hp =>
      obtain ⟨q, hq, i, timeout, rfl⟩ := hp
      have hnone : ∀ v, ¬ Raises cfg (s.tasks t) v := by
        rw [ht]
        exact not_raises hdyn (by simp [firstCall]) (by simp [firstCall])
      refine ⟨h.list, fun u => ?_, fun hnot => (h.fits hnot).keep ⟨rfl, rfl, rfl⟩ rfl fun v _ hv => ?_⟩
      · by_cases hut : u = t
        · subst hut
          simpa using PushState.sending hq i timeout
        · simpa [Function.update_of_ne hut] using h.tasks u
      · exact pending_update rfl (fun hr => absurd hr (hnone v)) hv
  | @call t o k r w' ht ho =>
      have hstate := h.tasks t
      rw [ht] at hstate
      have hpush := hstate.step hdyn ho
      rw [← ht] at hpush
      exact h.call (t := t) hdyn hdistinct hpush rfl rfl hraise
  | tick => exact ⟨h.list, h.tasks, fun hnot => (h.fits hnot).keep ⟨rfl, rfl, rfl⟩ rfl fun _ _ hv => hv⟩

/-! ## The calls of the controller -/

/-- A call that leaves the queues and the priority alone, outside of a pop and its recompute. -/
theorem PriorityInv.idle {s : System} {e : Event} {w' : World} (h : PriorityInv cfg qs s) (hw : SameQueues s.w w')
    (hstage : s.stage.next e = s.stage) : PriorityInv cfg qs (s.called e w') := by
  refine ⟨hw.pxNetworkQueueList.trans h.list, h.tasks, fun hnot => ?_⟩
  rw [System.stage_called, hstage] at hnot
  refine (h.fits hnot).keep ⟨hw.pxNetworkQueueList, hw.queues, ?_⟩ hw.uxPriority fun _ _ hv => hv
  rw [System.stage_called, hstage]

/-- No rule is asked of a state in which the controller recomputes. -/
theorem PriorityInv.recomputing {s s' : System} {found : List (QueueHandle × Nat)} (h : PriorityInv cfg qs s)
    (hlist : s'.w.pxNetworkQueueList = s.w.pxNetworkQueueList) (htasks : s'.tasks = s.tasks)
    (hstage : s'.stage = .recomputing found) : PriorityInv cfg qs s' :=
  ⟨hlist.trans h.list, by rw [htasks]; exact h.tasks, fun hnot => absurd hstage (hnot found)⟩

theorem PriorityInv.pop {s : System} {q : QueueHandle} {i : NetworkQueueItem} {is : List NetworkQueueItem}
    {timeout : Nat} (h : PriorityInv cfg qs s) (hstage : s.stage = .idle) (hq : s.w.queues q = i :: is) :
    PriorityInv cfg qs (s.called ⟨.xQueueReceive q timeout, some i⟩
      { s.w with queues := Function.update s.w.queues q is }) := by
  have hfits := h.fits (by simp [hstage])
  refine ⟨h.list, h.tasks, fun _ => ⟨hfits.base, ?_, hfits.notAbove.imp_right ?_⟩⟩
  · rintro q' ⟨hmem, hne⟩ hlt
    refine hfits.notBelow q' ⟨hmem, ?_⟩ hlt
    by_cases hqq : q'.xQueue = q
    · simp [hqq, hq]
    · simpa [Function.update_of_ne hqq] using hne
  · rintro ⟨q', hmem, hle, hheld⟩
    refine ⟨q', hmem, hle, ?_⟩
    by_cases hqq : q'.xQueue = q
    · exact Or.inr (by simp [hstage, PriorityStage.next, hqq])
    · refine Or.inl ?_
      simpa [hstage, Function.update_of_ne hqq] using hheld

theorem PriorityInv.more {s : System} {q : QueueHandle} (h : PriorityInv cfg qs s) (hstage : s.stage = .popped q)
    (hq : s.w.queues q ≠ []) :
    PriorityInv cfg qs (s.called ⟨.uxQueueMessagesWaiting q, (s.w.queues q).length⟩ s.w) := by
  have hfits := h.fits (by simp [hstage])
  refine ⟨h.list, h.tasks, fun _ => ⟨hfits.base, hfits.notBelow, hfits.notAbove.imp_right ?_⟩⟩
  rintro ⟨q', hmem, hle, hheld⟩
  refine ⟨q', hmem, hle, Or.inl ?_⟩
  rcases hheld with hne | hpop
  · exact hne
  · rw [hstage] at hpop
    cases hpop
    exact hq

/-- The scan has inspected `done` and found `found`; `uxPriority` is the largest priority so far. -/
structure Scanned (cfg : Config) (qs done : List NetworkQueue) (found : List (QueueHandle × Nat))
    (uxPriority : Nat) (s : System) : Prop extends PriorityInv cfg qs s where
  stage : s.stage = .recomputing found
  base : controllerTsnTaskBasePrio cfg ≤ uxPriority
  waits : uxPriority ≤ controllerTsnTaskBasePrio cfg ∨ ∃ q, s.Waits q ∧ uxPriority ≤ q.uxIPV
  inspected : ∀ q ∈ done, (q.xQueue, 0) ∈ found ∨ q.uxIPV ≤ uxPriority
  largest : ∀ q ∈ qs, ∀ n ≠ 0, (q.xQueue, n) ∈ found → q.uxIPV ≤ uxPriority

theorem round_of_rely {entry : P Bool → Prop} {s s' : System} (h : (prioritySem cfg entry).rely s s') :
    s'.round = s.round := by
  cases h.1 <;> rfl

theorem waits_of_rely {s s' : System} (hdyn : cfg.tsnconfigControllerHasDynamicPrio = true)
    (h : PriorityInv cfg qs s) (hst : (prioritySem cfg (PushesTo cfg qs)).rely s s') {q : NetworkQueue}
    (hq : s.Waits q) : s'.Waits q := by
  cases hst.1 with
  | start => exact hq
  | @call t o k r w' ht ho =>
      have hstate := h.tasks t
      rw [ht] at hstate
      have hpush := hstate.step hdyn ho
      generalize (Prog.call (σ := Calls) o k : P Bool) = p at hpush
      generalize k r = p' at hpush ⊢
      cases hpush with
      | @send q' i _ _ =>
          refine ⟨hq.1, ?_⟩
          by_cases hqq : q.xQueue = q'.xQueue
          · simp [hqq]
          · simpa [Function.update_of_ne hqq] using hq.2
      | full => exact hq
      | read => exact hq
      | set => exact hq
      | notify => exact hq
  | tick => exact hq

theorem Scanned.stable (hdyn : cfg.tsnconfigControllerHasDynamicPrio = true) (hdistinct : QueuesDistinct qs)
    (done : List NetworkQueue) (found : List (QueueHandle × Nat)) (uxPriority : Nat) :
    Stable (prioritySem cfg (PushesTo cfg qs)) (Scanned cfg qs done found uxPriority) := by
  intro s s' h hst
  refine ⟨PriorityInv.stable hdyn hdistinct s s' h.toPriorityInv hst, ?_, h.base, ?_, h.inspected, h.largest⟩
  · rw [System.stage, round_of_rely hst]
    exact h.stage
  · refine h.waits.imp_right ?_
    rintro ⟨q, hq, hle⟩
    exact ⟨q, waits_of_rely hdyn h.toPriorityInv hst hq, hle⟩

theorem Scanned.empty {done : List NetworkQueue} {found : List (QueueHandle × Nat)} {uxPriority : Nat}
    {s : System} (h : Scanned cfg qs done found uxPriority s) (q : NetworkQueue) :
    Scanned cfg qs (done ++ [q]) (found ++ [(q.xQueue, 0)]) uxPriority
      (s.called ⟨.uxQueueMessagesWaiting q.xQueue, 0⟩ s.w) := by
  have hnext : (s.called ⟨.uxQueueMessagesWaiting q.xQueue, 0⟩ s.w).stage =
      .recomputing (found ++ [(q.xQueue, 0)]) := by
    rw [System.stage_called, h.stage]
    rfl
  refine ⟨h.toPriorityInv.recomputing rfl rfl hnext, hnext, h.base, h.waits, fun q' hq' => ?_,
    fun q' hq' n hn hm => ?_⟩
  · rcases List.mem_append.mp hq' with hq' | hq'
    · exact (h.inspected q' hq').imp_left fun hm => List.mem_append.mpr (Or.inl hm)
    · rw [List.mem_singleton.mp hq']
      exact Or.inl (by simp)
  · rcases List.mem_append.mp hm with hm | hm
    · exact h.largest q' hq' n hn hm
    · exact absurd (congrArg Prod.snd (List.mem_singleton.mp hm)) hn

theorem Scanned.full (hdistinct : QueuesDistinct qs) {done : List NetworkQueue}
    {found : List (QueueHandle × Nat)} {uxPriority : Nat} {s : System}
    (h : Scanned cfg qs done found uxPriority s) {q : NetworkQueue} (hq : q ∈ qs)
    (hne : s.w.queues q.xQueue ≠ []) :
    Scanned cfg qs (done ++ [q]) (found ++ [(q.xQueue, (s.w.queues q.xQueue).length)])
      (if q.uxIPV > uxPriority then q.uxIPV else uxPriority)
      (s.called ⟨.uxQueueMessagesWaiting q.xQueue, (s.w.queues q.xQueue).length⟩ s.w) := by
  have hnext : (s.called ⟨.uxQueueMessagesWaiting q.xQueue, (s.w.queues q.xQueue).length⟩ s.w).stage =
      .recomputing (found ++ [(q.xQueue, (s.w.queues q.xQueue).length)]) := by
    rw [System.stage_called, h.stage]
    rfl
  have hle : uxPriority ≤ if q.uxIPV > uxPriority then q.uxIPV else uxPriority := by split <;> omega
  refine ⟨h.toPriorityInv.recomputing rfl rfl hnext, hnext, Nat.le_trans h.base hle, ?_, fun q' hq' => ?_,
    fun q' hq' n hn hm => ?_⟩
  · by_cases hgt : q.uxIPV > uxPriority
    · exact Or.inr ⟨q, ⟨h.list.symm ▸ hq, hne⟩, by simp [hgt]⟩
    · rw [if_neg hgt]
      exact h.waits
  · rcases List.mem_append.mp hq' with hq' | hq'
    · exact (h.inspected q' hq').imp (fun hm => List.mem_append.mpr (Or.inl hm)) fun hx => Nat.le_trans hx hle
    · rw [List.mem_singleton.mp hq']
      exact Or.inr (by split <;> omega)
  · rcases List.mem_append.mp hm with hm | hm
    · exact Nat.le_trans (h.largest q' hq' n hn hm) hle
    · have heq := congrArg Prod.fst (List.mem_singleton.mp hm)
      rw [hdistinct q' hq' q hq heq]
      split <;> omega

theorem Scanned.set {found : List (QueueHandle × Nat)} {uxPriority : Nat} {s : System}
    (h : Scanned cfg qs qs found uxPriority s) (htimely : RecomputeTimely cfg s) :
    PriorityInv cfg qs (s.called ⟨.vTaskPrioritySet uxPriority, ()⟩ { s.w with uxPriority := uxPriority }) := by
  refine ⟨h.list, h.tasks, fun _ => ⟨h.base, fun q hq hlt => ?_, ?_⟩⟩
  · have hmem : q ∈ qs := h.list ▸ hq.1
    have hfound : (q.xQueue, 0) ∈ found := by
      rcases h.inspected q hmem with hf | hle
      · exact hf
      · exact absurd hle (Nat.not_le_of_lt hlt)
    refine htimely found h.stage q hq hfound (Nat.lt_of_le_of_lt h.base hlt) fun q' hq' n hn hm => ?_
    exact Nat.lt_of_le_of_lt (h.largest q' (h.list ▸ hq') n hn hm) hlt
  · refine h.waits.imp_right ?_
    rintro ⟨q, hq, hle⟩
    exact ⟨q, hq.1, hle, Or.inl hq.2⟩

/-! ## The loops -/

/-- The invariant, with the controller at `stage`. -/
def PriorityAt (cfg : Config) (qs : List NetworkQueue) (stage : PriorityStage) (s : System) : Prop :=
  PriorityInv cfg qs s ∧ s.stage = stage

theorem PriorityAt.stable (hdyn : cfg.tsnconfigControllerHasDynamicPrio = true) (hdistinct : QueuesDistinct qs)
    (stage : PriorityStage) : Stable (prioritySem cfg (PushesTo cfg qs)) (PriorityAt cfg qs stage) := by
  rintro s s' ⟨h, hstage⟩ hst
  refine ⟨PriorityInv.stable hdyn hdistinct s s' h hst, ?_⟩
  rw [System.stage, round_of_rely hst]
  exact hstage

/-- Every call is made in a state that keeps the invariant. -/
def AlwaysPriority (cfg : Config) (qs : List NetworkQueue) (_ : Call) (s : System) : Prop := PriorityInv cfg qs s

theorem scheduling_priority (hdyn : cfg.tsnconfigControllerHasDynamicPrio = true) (hdistinct : QueuesDistinct qs)
    {α : Type} {p : P α} (hp : p.Within Call.Scheduling) {s : System} (h : PriorityAt cfg qs .idle s) :
    wp (prioritySem cfg (PushesTo cfg qs)) (AlwaysPriority cfg qs) p (fun _ => PriorityAt cfg qs .idle) s := by
  refine wp.frame hp (PriorityAt.stable hdyn hdistinct .idle) h (fun _ _ _ h => h.1) ?_
  rintro o s r s' ho ⟨h, hstage⟩ ⟨⟨w', hw, rfl⟩, -⟩
  have hnext : s.stage.next ⟨o, r⟩ = .idle := by
    rw [hstage]
    cases o <;> first | rfl | exact ho.elim
  exact ⟨h.idle (Acts.scheduling ho hw) (hnext.trans hstage.symm), by rw [System.stage_called, hnext]⟩

theorem prvMaxPriority_wp (hdyn : cfg.tsnconfigControllerHasDynamicPrio = true) (hdistinct : QueuesDistinct qs)
    (rest : List NetworkQueue) {done : List NetworkQueue} {found : List (QueueHandle × Nat)} {x : Nat} {s : System}
    (hall : done ++ rest = qs) (h : Scanned cfg qs done found x s) :
    wp (prioritySem cfg (PushesTo cfg qs)) (AlwaysPriority cfg qs) (prvMaxPriority x rest)
      (fun v s => ∃ found, Scanned cfg qs qs found v s) s := by
  induction rest generalizing done found x s with
  | nil =>
      rw [List.append_nil] at hall
      subst hall
      exact wp.ret_of_stable (Scanned.stable hdyn hdistinct done found x) h fun _ h => ⟨found, h⟩
  | cons q rest ih =>
      have hq : q ∈ qs := by simp [← hall]
      have hall' : done ++ [q] ++ rest = qs := by simp [← hall]
      simp only [prvMaxPriority, xNetworkQueueIsEmpty, call_eq, Prog.call_bind, Prog.ret_bind, Prog.pure_eq]
      refine wp.call_of_stable (Scanned.stable hdyn hdistinct done found x) h (fun _ h => h.toPriorityInv) ?_
      rintro s n s' h ⟨⟨w', hw, rfl⟩, -⟩
      cases hw
      by_cases hne : s.w.queues q.xQueue = []
      · simpa [hne] using ih hall' (h.empty q)
      · have hlen : ((s.w.queues q.xQueue).length == 0) = false := by simpa using hne
        simpa only [hlen, Bool.false_eq_true, ↓reduceIte] using ih hall' (h.full hdistinct hq hne)

theorem vTSNControllerComputePriority_wp (hdyn : cfg.tsnconfigControllerHasDynamicPrio = true)
    (hdistinct : QueuesDistinct qs) {s : System} (h : PriorityAt cfg qs (.recomputing []) s) :
    wp (prioritySem cfg (PushesTo cfg qs)) (AlwaysPriority cfg qs) (vTSNControllerComputePriority cfg)
      (fun _ => PriorityAt cfg qs .idle) s := by
  simp only [vTSNControllerComputePriority, call_eq, Prog.call_bind, Prog.ret_bind]
  refine wp.call_of_stable (PriorityAt.stable hdyn hdistinct _) h (fun _ h => h.1) ?_
  rintro s list s' ⟨h, hstage⟩ ⟨⟨w', hw, rfl⟩, -⟩
  cases hw
  have hnext : (s.called ⟨.loadQueueList, s.w.pxNetworkQueueList⟩ s.w).stage = .recomputing [] := by
    rw [System.stage_called, hstage]
    rfl
  have hscan : Scanned cfg qs [] [] (controllerTsnTaskBasePrio cfg)
      (s.called ⟨.loadQueueList, s.w.pxNetworkQueueList⟩ s.w) :=
    ⟨h.recomputing rfl rfl hnext, hnext, Nat.le_refl _, Or.inl (Nat.le_refl _), by simp, by simp⟩
  rw [h.list]
  refine wp.bind (wp.mono ?_ (prvMaxPriority_wp hdyn hdistinct qs (List.nil_append _) (h.list ▸ hscan)))
  rintro v s ⟨found, h⟩
  refine wp.call_of_stable (Scanned.stable hdyn hdistinct qs found v) h (fun _ h => h.toPriorityInv) ?_
  rintro s ⟨⟩ s' h ⟨⟨w', hw, rfl⟩, htimely⟩
  cases hw
  refine wp.ret_of_stable (PriorityAt.stable hdyn hdistinct .idle) ⟨h.set htimely, ?_⟩ fun _ h => h
  rw [System.stage_called, h.stage]
  rfl

theorem prvTSNControllerServeQueue_priority (hdyn : cfg.tsnconfigControllerHasDynamicPrio = true)
    (hdistinct : QueuesDistinct qs) (q : NetworkQueue) {s : System} (h : PriorityAt cfg qs .idle s) :
    wp (prioritySem cfg (PushesTo cfg qs)) (AlwaysPriority cfg qs) (prvTSNControllerServeQueue cfg q)
      (fun _ => PriorityAt cfg qs .idle) s := by
  have hinner : ∀ s, PriorityAt cfg qs .idle s → wp (prioritySem cfg (PushesTo cfg qs)) (AlwaysPriority cfg qs)
      (.ret ControllerLoop.inner) (fun _ => PriorityAt cfg qs .idle) s :=
    fun s h => wp.ret_of_stable (PriorityAt.stable hdyn hdistinct .idle) h fun _ h => h
  simp only [prvTSNControllerServeQueue, xNetworkQueuePop, xNetworkQueueIsEmpty, call_eq, Prog.call_bind,
    Prog.ret_bind, Prog.pure_eq, hdyn, ↓reduceIte]
  refine wp.call_of_stable (PriorityAt.stable hdyn hdistinct .idle) h (fun _ h => h.1) ?_
  rintro s r s' ⟨h, hstage⟩ ⟨⟨w', hw, rfl⟩, -⟩
  cases hw
  cases hq : s.w.queues q.xQueue with
  | nil =>
      refine hinner _ ⟨h.idle ⟨by simp [hq], rfl, rfl⟩ ?_, ?_⟩
      · rw [hstage]
        rfl
      · rw [System.stage_called, hstage]
        rfl
  | cons i is =>
      have hpop : PriorityAt cfg qs (.popped q.xQueue) (s.called ⟨.xQueueReceive q.xQueue 0, some i⟩
          { s.w with queues := Function.update s.w.queues q.xQueue is }) := by
        refine ⟨h.pop hstage hq, ?_⟩
        rw [System.stage_called, hstage]
        rfl
      refine wp.call_of_stable (PriorityAt.stable hdyn hdistinct _) hpop (fun _ h => h.1) ?_
      rintro s ⟨⟩ s' ⟨h, hstage⟩ ⟨⟨w', hw, rfl⟩, hprio, hlist⟩
      have hserved : PriorityAt cfg qs (.popped q.xQueue) (s.called ⟨.serve q i, ()⟩ w') := by
        have hnext : s.stage.next ⟨.serve q i, ()⟩ = s.stage := by
          rw [hstage]
          rfl
        exact ⟨h.idle ⟨hw.queues, hlist, hprio⟩ hnext, by rw [System.stage_called, hnext, hstage]⟩
      refine wp.call_of_stable (PriorityAt.stable hdyn hdistinct _) hserved (fun _ h => h.1) ?_
      rintro s n s' ⟨h, hstage⟩ ⟨⟨w', hw, rfl⟩, -⟩
      cases hw
      by_cases hne : s.w.queues q.xQueue = []
      · -- The queue is empty: the controller recomputes.
        have hnext : (s.called ⟨.uxQueueMessagesWaiting q.xQueue, (s.w.queues q.xQueue).length⟩ s.w).stage =
            .recomputing [] := by
          rw [System.stage_called, hstage]
          simp [PriorityStage.next, hne]
        have hre : PriorityAt cfg qs (.recomputing [])
            (s.called ⟨.uxQueueMessagesWaiting q.xQueue, (s.w.queues q.xQueue).length⟩ s.w) :=
          ⟨h.recomputing rfl rfl hnext, hnext⟩
        have hcompute := vTSNControllerComputePriority_wp hdyn hdistinct hre
        simp only [hne, List.length_nil, BEq.rfl, ↓reduceIte] at hcompute ⊢
        exact wp.bind (wp.mono (fun _ => hinner) hcompute)
      · have hlen : ((s.w.queues q.xQueue).length == 0) = false := by simpa using hne
        simp only [hlen]
        refine hinner _ ⟨h.more hstage hne, ?_⟩
        rw [System.stage_called, hstage]
        simpa [PriorityStage.next] using hne

theorem prvTSNController_priority (hdyn : cfg.tsnconfigControllerHasDynamicPrio = true)
    (hdistinct : QueuesDistinct qs) (root : NetworkNode) (l : ControllerLoop) {s : System}
    (h : PriorityAt cfg qs .idle s) :
    wp (prioritySem cfg (PushesTo cfg qs)) (AlwaysPriority cfg qs) ((controller cfg root).body l)
      (fun _ => PriorityAt cfg qs .idle) ((controller cfg root).enter l s) := by
  cases l with
  | outer => exact scheduling_priority hdyn hdistinct prvTSNControllerSleep_scheduling h
  | inner =>
      have henter : PriorityAt cfg qs .idle { s with round := [] } := by
        refine ⟨⟨h.1.list, h.1.tasks, fun _ => ?_⟩, rfl⟩
        exact (h.1.fits (by simp [h.2])).keep ⟨rfl, rfl, h.2.symm⟩ rfl fun _ _ hv => hv
      refine wp.bind (wp.mono ?_
        (scheduling_priority hdyn hdistinct (xNetworkQueueSchedule_scheduling root) henter))
      intro r s h
      cases r with
      | none => exact wp.ret_of_stable (PriorityAt.stable hdyn hdistinct .idle) h fun _ h => h
      | some q => exact prvTSNControllerServeQueue_priority hdyn hdistinct q h

/-- At the start nothing waits and the priority is the base. -/
theorem StartsPriority.inv {s : System} (h : StartsPriority cfg s) :
    PriorityAt cfg s.w.pxNetworkQueueList .idle s := by
  have hstage : s.stage = .idle := by rw [System.stage, h.round]; rfl
  refine ⟨⟨rfl, fun t => ?_, fun _ => ⟨Nat.le_of_eq h.uxPriority.symm, fun q hq => ?_,
    Or.inl (Nat.le_of_eq h.uxPriority)⟩⟩, hstage⟩
  · obtain ⟨b, hb⟩ := h.idle t
    rw [hb]
    exact .ended b
  · exact absurd (h.queues q.xQueue) hq.2

/-! ## The priority that is due -/

theorem le_foldl_max (b : Nat) (xs : List Nat) : b ≤ xs.foldl max b ∧ ∀ x ∈ xs, x ≤ xs.foldl max b := by
  induction xs generalizing b with
  | nil => simp
  | cons x xs ih =>
      obtain ⟨hb, hxs⟩ := ih (max b x)
      refine ⟨Nat.le_trans (Nat.le_max_left b x) hb, fun y hy => ?_⟩
      rcases List.mem_cons.mp hy with rfl | hy
      · exact Nat.le_trans (Nat.le_max_right b y) hb
      · exact hxs y hy

theorem foldl_max_le {b m : Nat} {xs : List Nat} (hb : b ≤ m) (hxs : ∀ x ∈ xs, x ≤ m) : xs.foldl max b ≤ m := by
  induction xs generalizing b with
  | nil => exact hb
  | cons x xs ih => exact ih (Nat.max_le.mpr ⟨hb, hxs x (by simp)⟩) fun y hy => hxs y (by simp [hy])

theorem mem_waiting {s : System} {x : Nat} :
    x ∈ (s.w.pxNetworkQueueList.filter fun q => !(s.w.queues q.xQueue).isEmpty).map (·.uxIPV) ↔
      ∃ q, s.Waits q ∧ q.uxIPV = x := by
  simp [System.Waits, and_assoc]

/-- In a quiet state nothing is left to raise and nothing was just popped. -/
theorem PriorityInv.due {s : System} (hdyn : cfg.tsnconfigControllerHasDynamicPrio = true)
    (h : PriorityInv cfg qs s) (hquiet : s.Quiet) : s.w.uxPriority = duePriority cfg s.w := by
  have hfits := h.fits (by simp [hquiet.stage])
  have hnone : ∀ v, ¬ s.Pending cfg v := by
    rintro v ⟨t, ht⟩
    obtain ⟨b, hb⟩ := hquiet.tasks t
    rw [hb] at ht
    exact not_raises hdyn (by simp [firstCall]) (by simp [firstCall]) v ht
  obtain ⟨hbase, hwaiting⟩ := le_foldl_max (controllerTsnTaskBasePrio cfg)
    ((s.w.pxNetworkQueueList.filter fun q => !(s.w.queues q.xQueue).isEmpty).map (·.uxIPV))
  refine Nat.le_antisymm ?_ (foldl_max_le hfits.base fun x hx => ?_)
  · rcases hfits.notAbove with hle | ⟨q, hq, hle, hheld⟩
    · exact Nat.le_trans hle hbase
    · have hne : s.w.queues q.xQueue ≠ [] := by
        rcases hheld with hne | hpop
        · exact hne
        · rw [hquiet.stage] at hpop
          cases hpop
      exact Nat.le_trans hle (hwaiting _ (mem_waiting.mpr ⟨q, ⟨hq, hne⟩, rfl⟩))
  · obtain ⟨q, hq, rfl⟩ := mem_waiting.mp hx
    exact Nat.le_of_not_lt fun hlt => hnone _ (hfits.notBelow q hq hlt)

end FreeRtosTsn.Scheduler
