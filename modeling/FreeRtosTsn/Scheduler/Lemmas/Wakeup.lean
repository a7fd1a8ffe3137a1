import FreeRtosTsn.Scheduler.Lemmas.Tasks

/-!
# What wakes the controller

A queue that is not empty is covered as long as a notification is not taken or the task that sent to it has yet to
notify. The steps of the tasks keep every queue covered; a traversal that finds no queue leaves every queue under its
node covered, because a queue is empty at the moment it is inspected. The notification value counts the notifications
that are not taken, until it wraps.
-/

namespace FreeRtosTsn.Scheduler

open Lib Kernel

variable {cfg : Config} {entry : P Bool → Prop}

/-- The controller will see what is in `q`, or a task will still tell it. -/
def Covered (q : QueueHandle) (s : System) : Prop :=
  s.w.queues q = [] ∨ s.untaken ≠ 0 ∨ ∃ t, s.enqueued t = some q

theorem Covered.call {s : System} {t : Nat} {o : Call} {k : Call.Res o → P Bool} {r : Call.Res o} {w' : World}
    {q : QueueHandle} (hT : TasksOk s) (h : Covered q s) (ht : s.tasks t = .call (σ := Calls) o k)
    (ho : effect cfg o s.w = .ok r w') :
    Covered q { s with
      w := w'
      tasks := Function.update s.tasks t (k r)
      enqueued := Function.update s.enqueued t (o.pending r (s.enqueued t))
      untaken := o.untaken s.untaken } := by
  have hn := hT t
  rw [ht] at hn
  obtain ⟨hby, hsend, -⟩ := hn
  obtain ⟨hq, hle, hgive⟩ := effect_byTask hby ho q s.untaken
  by_cases hv : o.untaken s.untaken = 0
  · -- Nobody notified: what was owed is still owed, or the queue is as it was, or it was just sent to.
    rcases h with h | h | ⟨u, hu⟩
    · rcases hq with hq | hq
      · exact Or.inl (hq.trans h)
      · have hnone : s.enqueued t = none := by
          cases o <;> simp_all [Call.pending]
        exact Or.inr (Or.inr ⟨t, by simp [hnone, hq]⟩)
    · exact absurd (Nat.le_zero.mp (hv ▸ hle)) h
    · refine Or.inr (Or.inr ⟨u, ?_⟩)
      by_cases hut : u = t
      · subst hut
        have hkeep : o.pending r (some q) ≠ none := fun hc => hgive hc hv
        simp only [Function.update_self, hu]
        cases o <;> simp_all [Call.pending]
      · simpa [Function.update_of_ne hut] using hu
  · exact Or.inr (Or.inl hv)

/-- The steps of the tasks keep queues covered. -/
def CoveredAll (qs : List NetworkQueue) (s : System) : Prop := TasksOk s ∧ ∀ q ∈ qs, Covered q.xQueue s

theorem CoveredAll.stable (hentry : ∀ p, entry p → Notifies p none) (qs : List NetworkQueue) :
    Stable (sem cfg entry) (CoveredAll qs) := by
  rintro s s' ⟨hT, hC⟩ hst
  cases hst with
  | start ht hp => exact ⟨hT.start ht (hentry _ hp), hC⟩
  | call ht ho => exact ⟨hT.call ht, fun q hq => (hC q hq).call hT ht ho⟩
  | tick => exact ⟨hT, hC⟩

/-! ## The traversal -/

/-- When the controller is about to take notifications and there are none, every queue is empty or a task still has
to notify it. -/
def BlocksCovered (qs : List NetworkQueue) : Call → System → Prop
  | .ulTaskNotifyTake _ _, s => s.untaken = 0 →
      ∀ q ∈ qs, s.w.queues q.xQueue = [] ∨ ∃ t, s.enqueued t = some q.xQueue
  | _, _ => True

variable {all : List NetworkQueue}

/-- The outcome of a traversal of queues `qs` when `done` was covered before: no queue found, all covered. -/
def Traversed (done qs : List NetworkQueue) (r : Option NetworkQueue) (s : System) : Prop :=
  TasksOk s ∧ (r = none → CoveredAll (done ++ qs) s)

theorem Traversed.stable (hentry : ∀ p, entry p → Notifies p none) (done qs : List NetworkQueue)
    (r : Option NetworkQueue) : Stable (sem cfg entry) (Traversed done qs r) :=
  (TasksOk.stable hentry).and fun s s' h hst hr => CoveredAll.stable hentry _ s s' (h hr) hst

theorem prvCallTerminal_wp (hentry : ∀ p, entry p → Notifies p none) {done : List NetworkQueue}
    (q : NetworkQueue) {s : System} (h : CoveredAll done s) :
    wp (sem cfg entry) (BlocksCovered all) (prvCallTerminal q) (Traversed done [q]) s := by
  simp only [prvCallTerminal, xNetworkQueueIsEmpty, call_eq, Prog.call_bind, Prog.ret_bind, Prog.pure_eq]
  refine wp_call (CoveredAll.stable hentry done) h (fun _ _ => trivial) ?_
  rintro s n w' ⟨hT, hC⟩ hw
  cases hw
  cases hq : s.w.queues q.xQueue with
  | nil =>
      refine wp.ret_of_stable (Traversed.stable hentry done [q] none) ⟨hT, fun _ => ⟨hT, ?_⟩⟩ fun _ h => h
      intro q' hq'
      rcases List.mem_append.mp hq' with hq' | hq'
      · exact hC q' hq'
      · obtain rfl := List.mem_singleton.mp hq'
        exact Or.inl hq
  | cons i is =>
      have hsome : some q ≠ none := by simp
      exact wp.ret_of_stable (Traversed.stable hentry done [q] (some q)) ⟨hT, fun h => absurd h hsome⟩ fun _ h => h

mutual
theorem pxNetworkSchedulerCall_wp (hentry : ∀ p, entry p → Notifies p none) {done : List NetworkQueue} :
    (n : NetworkNode) → n.WellFormed → n.cbsNodes = [] → {s : System} → CoveredAll done s →
    wp (sem cfg entry) (BlocksCovered all) (pxNetworkSchedulerCall cfg n) (Traversed done n.linkedQueues) s
  | .null, hn, _, _, _ => hn.elim
  | .mk _ sched (some q) _, _, hc, s, h => by
      have hr : sched.fnReady = .prvAlwaysReady := by
        cases hr : sched.fnReady with
        | prvAlwaysReady => rfl
        | prvCBSReady c => simp [NetworkNode.cbsNodes, hr] at hc
      simp only [pxNetworkSchedulerCall, netschedCallReadyFromNode, hr, Prog.pure_eq, Prog.ret_bind]
      exact prvCallTerminal_wp hentry q h
  | .mk n sched none next, hn, hc, s, h => by
      obtain ⟨hlen, hr, hfirst, hnext⟩ := hn
      simp only [pxNetworkSchedulerCall, netschedCallReadyFromNode, hr, Prog.pure_eq, Prog.ret_bind]
      simp only [NetworkNode.cbsNodes] at hc
      cases hsel : sched.fnSelect with
      | prvPrioritySelect => exact prvPrioritySelect_wp hentry n next hlen hnext hc h
      | prvSelectFirst => exact prvSelectFirst_wp hentry next (hfirst hsel) hnext hc h

theorem prvSelectFirst_wp (hentry : ∀ p, entry p → Notifies p none) {done : List NetworkQueue} :
    (ns : List NetworkNode) → ns.length = 1 → WellFormedList ns → cbsNodesList ns = [] → {s : System} →
    CoveredAll done s →
    wp (sem cfg entry) (BlocksCovered all) (prvSelectFirst cfg ns) (Traversed done (linkedQueuesList ns)) s
  | [], hl, _, _, _, _ => by simp at hl
  | child :: ns, hl, hn, hc, s, h => by
      obtain rfl : ns = [] := by simpa using hl
      simp only [cbsNodesList, List.append_nil] at hc
      simp only [prvSelectFirst, linkedQueuesList, List.append_nil]
      exact pxNetworkSchedulerCall_wp hentry child hn.1 hc h

theorem prvPrioritySelect_wp (hentry : ∀ p, entry p → Notifies p none) {done : List NetworkQueue} :
    (n : Nat) → (ns : List NetworkNode) → n = ns.length → WellFormedList ns → cbsNodesList ns = [] →
    {s : System} → CoveredAll done s →
    wp (sem cfg entry) (BlocksCovered all) (prvPrioritySelect cfg n ns) (Traversed done (linkedQueuesList ns)) s
  | 0, [], _, _, _, s, h => by
      refine wp.ret_of_stable (CoveredAll.stable hentry done) h fun s' h' => ⟨h'.1, fun _ => ?_⟩
      simpa only [linkedQueuesList, List.append_nil] using h'
  | n + 1, child :: ns, hl, hn, hc, s, h => by
      simp only [cbsNodesList, List.append_eq_nil_iff] at hc
      simp only [prvPrioritySelect]
      refine wp.bind (wp.mono ?_ (pxNetworkSchedulerCall_wp hentry child hn.1 hc.1 h))
      intro r s' hs'
      cases r with
      | some q => exact wp.ret_of_stable (Traversed.stable hentry _ _ (some q)) hs' fun _ h => ⟨h.1, nofun⟩
      | none =>
          refine wp.mono ?_ (prvPrioritySelect_wp hentry n ns (by simpa using hl) hn.2 hc.2 (hs'.2 rfl))
          intro r s'' hs''
          simpa only [Traversed, linkedQueuesList, List.append_assoc] using hs''
end

/-! ## The loops -/

/-- What holds when a loop is entered: all queues are covered when the controller goes to sleep. -/
def LoopCovered (qs : List NetworkQueue) : ControllerLoop → System → Prop
  | .outer, s => CoveredAll qs s
  | .inner, s => TasksOk s

theorem prvTSNControllerWait_wp (hentry : ∀ p, entry p → Notifies p none) {s : System} (h : CoveredAll all s)
    (uxTimeToSleep : Nat) :
    wp (sem cfg entry) (BlocksCovered all) (prvTSNControllerWait uxTimeToSleep) (LoopCovered all) s := by
  refine wp_call (CoveredAll.stable hentry all) h ?_ ?_
  · rintro s ⟨-, hC⟩ hv q hq
    rcases hC q hq with h | h | h
    · exact Or.inl h
    · exact absurd hv h
    · exact Or.inr h
  · rintro s n w' ⟨hT, -⟩ hw
    cases hw
    exact wp.ret_of_stable (TasksOk.stable hentry) (show TasksOk _ from hT) fun _ h => h

/-- A sample of the tick and of the wakeup event leaves the queues covered. -/
theorem sample_wp (hentry : ∀ p, entry p → Notifies p none) {k : Nat → Nat → P ControllerLoop}
    (hk : ∀ uxNow uxNextWakeup s, CoveredAll all s →
      wp (sem cfg entry) (BlocksCovered all) (k uxNow uxNextWakeup) (LoopCovered all) s)
    {s : System} (h : CoveredAll all s) :
    wp (sem cfg entry) (BlocksCovered all)
      (.call (σ := Calls) .xTaskGetTickCount fun uxNow =>
        .call (σ := Calls) .loadNextWakeup fun uxNextWakeup => k uxNow uxNextWakeup) (LoopCovered all) s := by
  have hst : Stable (sem cfg entry) (CoveredAll all) := CoveredAll.stable hentry all
  refine wp_call hst h (fun _ _ => trivial) ?_
  intro s uxNow w' h hw
  cases hw
  refine wp_call hst h (fun _ _ => trivial) ?_
  intro s uxNextWakeup w' h hw
  cases hw
  exact hk _ _ _ h

theorem prvTSNControllerSleep_wp (hentry : ∀ p, entry p → Notifies p none) {s : System} (h : CoveredAll all s) :
    wp (sem cfg entry) (BlocksCovered all) (prvTSNControllerSleep cfg) (LoopCovered all) s := by
  rw [prvTSNControllerSleep_eq]
  refine sample_wp hentry (fun uxNow uxNextWakeup s h => ?_) h
  rw [prvTSNControllerResample]
  split
  · exact sample_wp hentry (fun _ _ _ h => prvTSNControllerWait_wp hentry h _) h
  · exact prvTSNControllerWait_wp hentry h _

theorem prvTSNControllerServe_wp (hentry : ∀ p, entry p → Notifies p none) {root : NetworkNode}
    (hroot : root.WellFormed) (hcbs : root.cbsNodes = []) {s : System} (h : TasksOk s) :
    wp (sem cfg entry) (BlocksCovered all) (prvTSNControllerServe cfg root) (LoopCovered root.linkedQueues) s := by
  rw [prvTSNControllerServe, xNetworkQueueSchedule_eq hroot]
  have h₀ : CoveredAll [] s := ⟨h, by simp⟩
  refine wp.bind (wp.mono ?_ (pxNetworkSchedulerCall_wp hentry root hroot hcbs h₀))
  rintro (_ | q) s ⟨hT, hnone⟩
  · exact wp.ret_of_stable (CoveredAll.stable hentry _) (hnone rfl) fun _ h => h
  · -- The controller does not touch the tasks.
    refine wp.mono ?_ (prvTSNControllerServeQueue_wp (TasksOk.stable hentry) ?_ (fun _ _ _ _ _ h _ => h) q hT)
    · rintro _ s ⟨rfl, hT⟩
      exact hT
    · intro o s ho
      cases o <;> first | exact ho.elim | trivial

theorem prvTSNController_wp (hentry : ∀ p, entry p → Notifies p none) {root : NetworkNode}
    (hroot : root.WellFormed) (hcbs : root.cbsNodes = []) (l : ControllerLoop) {s : System}
    (h : LoopCovered root.linkedQueues l s) :
    wp (sem cfg entry) (BlocksCovered root.linkedQueues) ((controller cfg root).body l)
      (LoopCovered root.linkedQueues) ((controller cfg root).enter l s) := by
  cases l with
  | outer => exact prvTSNControllerSleep_wp hentry h
  | inner => exact prvTSNControllerServe_wp hentry hroot hcbs h

/-! ## The notification value -/

/-- The notification value shows how many notifications are not taken, but for multiples of 2 ^ 32. -/
def System.Counted (s : System) : Prop := s.w.ulNotifiedValue = wrap32 s.untaken

theorem effect_counted {o : Call} {w w' : World} {r : Call.Res o} {n : Nat} (h : effect cfg o w = .ok r w')
    (hn : w.ulNotifiedValue = wrap32 n) : w'.ulNotifiedValue = wrap32 (o.untaken n) := by
  cases o with
  | xTaskNotifyGive =>
      cases h
      simp [Call.untaken, hn, wrap32_add_one]
  | ulTaskNotifyTake xClearCountOnExit t =>
      cases xClearCountOnExit with
      | true =>
          cases h
          rfl
      | false =>
          cases h
          show w.ulNotifiedValue - 1 = _
          rw [hn, Call.untaken]
          by_cases h0 : wrap32 n = 0
          · rw [if_pos h0, h0]
          · rw [if_neg h0]
            simp only [wrap32] at h0 ⊢
            omega
  | xQueueSendToBack q i t =>
      rw [effect_xQueueSendToBack] at h
      split at h <;> cases h <;> exact hn
  | fault f => cases h
  | _ => cases h; exact hn

theorem Acts.counted {o : Call} {w w' : World} {r : Call.Res o} {n : Nat} (h : Acts cfg o w r w')
    (hn : w.ulNotifiedValue = wrap32 n) : w'.ulNotifiedValue = wrap32 (o.untaken n) := by
  cases o with
  | serve q i => exact h.ulNotifiedValue.trans hn
  | _ => exact effect_counted h hn

theorem Reachable.counted {root : NetworkNode} {s₀ s : System} {p : P ControllerLoop} (h₀ : s₀.Counted)
    (h : Reachable cfg root entry s₀ (p, s)) : s.Counted := by
  refine h.keeps ?_ ?_ ?_ h₀
  · rintro o s r _ ⟨w', hw, rfl⟩ hs
    exact hw.counted hs
  · intro s s' hs hst
    cases hst with
    | start => exact hs
    | call _ he => exact effect_counted he hs
    | tick => exact hs
  · intro l s hs
    cases l <;> exact hs

/-- When the controller first goes to sleep the queues are empty. -/
theorem Starts.covered {s : System} (h : Starts s) (qs : List NetworkQueue) : CoveredAll qs s :=
  ⟨h.tasksOk, fun q _ => Or.inl (h.queues q.xQueue)⟩

end FreeRtosTsn.Scheduler
