import FreeRtosTsn.Scheduler.Lemmas.Tasks

/-!
# When the controller wakes for a shaper

`uxNextWakeup` is shared by all credit based schedulers. A wakeup event that is still ahead is always the activation
of one of them, since an activation only changes once it has come. As long as no activation has come, the event is
ahead and no later than any activation that the round reported.
-/

namespace FreeRtosTsn.Scheduler

open Lib Kernel

variable {cfg : Config} {entry : P Bool → Prop} {all seen found : List CbsId}

/-! ## The wakeup event -/

/-- A wakeup event that is ahead is the activation of a scheduler. -/
def Armed (all : List CbsId) (w : World) : Prop :=
  w.xTickCount < w.uxNextWakeup → ∃ id ∈ all, w.uxNextActivation id = w.uxNextWakeup

/-- If no activation has come at `uxNow`, the event is ahead and no later than the activations in `seen`. -/
def Earliest (all seen : List CbsId) (uxNow : Nat) (w : World) : Prop :=
  (∀ id ∈ all, uxNow < w.uxNextActivation id) →
    ∀ id ∈ seen, uxNow < w.uxNextWakeup ∧ w.uxNextWakeup ≤ w.uxNextActivation id

/-- What the controller and the tasks always keep. -/
structure Shaped (all : List CbsId) (s : System) : Prop where
  tasks : TasksOk s
  uxNextActivation : ∀ id, s.w.uxNextActivation id < 2 ^ 32
  uxNextWakeup : s.w.uxNextWakeup < 2 ^ 32
  armed : Armed all s.w

/-- A round that found the schedulers in `found` not ready; the events of those in `seen` were added. -/
structure Round (all seen found : List CbsId) (s : System) : Prop extends Shaped all s where
  earliest : s.w.xTickCount < 2 ^ 32 → Earliest all seen s.w.xTickCount s.w
  record : s.record.notReady = found.map fun id => (id, s.w.uxNextActivation id)

theorem Shaped.keep {s s' : System} (h : Shaped all s) (hT : TasksOk s') (hk : TasksKeep s s') :
    Shaped all s' := by
  refine ⟨hT, by simpa only [hk.uxNextActivation] using h.uxNextActivation,
    by simpa only [hk.uxNextWakeup] using h.uxNextWakeup, fun ht => ?_⟩
  rw [hk.uxNextActivation, hk.uxNextWakeup]
  exact h.armed (Nat.lt_of_le_of_lt hk.xTickCount (hk.uxNextWakeup ▸ ht))

theorem Shaped.stable (hentry : ∀ p, entry p → Notifies p none) : Stable (sem cfg entry) (Shaped all) :=
  TasksOk.stable_of hentry (fun _ h => h.tasks) fun _ _ h hT hk => h.keep hT hk

theorem System.record_keep {s s' : System} (hk : TasksKeep s s') : s'.record = s.record := by
  rw [System.record, System.record, hk.round]

theorem Round.keep {s s' : System} (h : Round all seen found s) (hT : TasksOk s') (hk : TasksKeep s s') :
    Round all seen found s' := by
  refine ⟨h.toShaped.keep hT hk, fun ht hall id hid => ?_, ?_⟩
  · rw [hk.uxNextActivation] at hall ⊢
    rw [hk.uxNextWakeup]
    have hbefore : ∀ id ∈ all, s.w.xTickCount < s.w.uxNextActivation id :=
      fun id hid => Nat.lt_of_le_of_lt hk.xTickCount (hall id hid)
    obtain ⟨hahead, hle⟩ := h.earliest (Nat.lt_of_le_of_lt hk.xTickCount ht) hbefore id hid
    -- The event is an activation, which has not come by now.
    obtain ⟨id', hid', hw⟩ := h.armed hahead
    exact ⟨hw ▸ hall id' hid', hle⟩
  · rw [System.record_keep hk, hk.uxNextActivation, h.record]

theorem Round.stable (hentry : ∀ p, entry p → Notifies p none) : Stable (sem cfg entry) (Round all seen found) :=
  TasksOk.stable_of hentry (fun _ h => h.tasks) fun _ _ h hT hk => h.keep hT hk

theorem Round.fresh {s : System} (h : Shaped all s) (hr : s.round = []) : Round all [] [] s := by
  refine ⟨h, fun _ _ id hid => ?_, by simp [System.record, hr]⟩
  cases hid

/-! ## Calls that leave the schedulers alone -/

/-- The activations, the event and the time are those of `w`. -/
structure SameShape (w w' : World) : Prop where
  uxNextActivation : w'.uxNextActivation = w.uxNextActivation
  uxNextWakeup : w'.uxNextWakeup = w.uxNextWakeup
  xTickCount : w'.xTickCount = w.xTickCount

theorem SameShape.refl (w : World) : SameShape w w := ⟨rfl, rfl, rfl⟩

theorem Shaped.called {s : System} {e : Event} {w' : World} (h : Shaped all s) (hw : SameShape s.w w') :
    Shaped all (s.called e w') := by
  refine ⟨h.tasks, by simpa [hw.uxNextActivation] using h.uxNextActivation,
    by simpa [hw.uxNextWakeup] using h.uxNextWakeup, ?_⟩
  simpa [Armed, hw.uxNextActivation, hw.uxNextWakeup, hw.xTickCount] using h.armed

theorem Round.called {s : System} {e : Event} {w' : World} (h : Round all seen found s) (hw : SameShape s.w w')
    (he : (s.record.add e).notReady = s.record.notReady) : Round all seen found (s.called e w') := by
  refine ⟨h.toShaped.called hw, ?_, ?_⟩
  · simpa [Earliest, hw.uxNextActivation, hw.uxNextWakeup, hw.xTickCount] using h.earliest
  · simpa [he, hw.uxNextActivation] using h.record

/-! ## Adding a wakeup event -/

/-- The scheduler `id` is about to add its activation `uxTime`, and has sampled the tick. -/
structure Reports (all seen found : List CbsId) (id : CbsId) (uxTime uxNow : Nat) (s : System) : Prop
    extends Round all seen found s where
  mem : id ∈ all
  activation : s.w.uxNextActivation id = uxTime
  sampled : uxNow ≤ s.w.xTickCount
  ahead : s.w.xTickCount < 2 ^ 32 → uxNow < s.w.uxNextWakeup →
    ∃ id ∈ all, s.w.uxNextActivation id = s.w.uxNextWakeup

theorem Reports.keep {id : CbsId} {uxTime uxNow : Nat} {s s' : System}
    (h : Reports all seen found id uxTime uxNow s) (hT : TasksOk s') (hk : TasksKeep s s') :
    Reports all seen found id uxTime uxNow s' := by
  refine ⟨h.toRound.keep hT hk, h.mem, by rw [hk.uxNextActivation, h.activation],
    Nat.le_trans h.sampled hk.xTickCount, ?_⟩
  rw [hk.uxNextActivation, hk.uxNextWakeup]
  exact fun ht => h.ahead (Nat.lt_of_le_of_lt hk.xTickCount ht)

theorem Reports.stable (hentry : ∀ p, entry p → Notifies p none) {id : CbsId} {uxTime uxNow : Nat} :
    Stable (sem cfg entry) (Reports all seen found id uxTime uxNow) :=
  TasksOk.stable_of hentry (fun _ h => h.tasks) fun _ _ h hT hk => h.keep hT hk

/-- The event that is kept is no later than `uxTime`. -/
theorem Reports.kept {id : CbsId} {uxTime uxNow : Nat} {s : System}
    (h : Reports all seen found id uxTime uxNow s) (hle : s.w.uxNextWakeup ≤ uxTime)
    (hnow : uxNow < s.w.uxNextWakeup) : Round all (seen ++ [id]) found s := by
  refine ⟨h.toShaped, fun ht hall id' hid' => ?_, h.record⟩
  obtain ⟨id₀, hid₀, hw⟩ := h.ahead ht hnow
  have hahead : s.w.xTickCount < s.w.uxNextWakeup := hw ▸ hall id₀ hid₀
  rcases List.mem_append.mp hid' with hid' | hid'
  · exact h.earliest ht hall id' hid'
  · obtain rfl := List.mem_singleton.mp hid'
    exact ⟨hahead, h.activation.symm ▸ hle⟩

/-- The event is replaced by an earlier one, or by the first one of the round when it has passed. -/
theorem Reports.stored {id : CbsId} {uxTime uxNow : Nat} {s : System} {e : Event}
    (h : Reports all seen found id uxTime uxNow s) (hlt : uxTime < s.w.uxNextWakeup ∨ s.w.uxNextWakeup ≤ uxNow)
    (he : (s.record.add e).notReady = s.record.notReady) :
    Round all (seen ++ [id]) found (s.called e { s.w with uxNextWakeup := uxTime }) := by
  refine ⟨⟨h.tasks, h.uxNextActivation, h.activation ▸ h.uxNextActivation id, fun _ => ⟨id, h.mem, h.activation⟩⟩,
    fun ht hall id' hid' => ?_, by simpa [he] using h.record⟩
  have hahead : s.w.xTickCount < uxTime := h.activation ▸ hall id h.mem
  refine ⟨hahead, ?_⟩
  rcases List.mem_append.mp hid' with hid' | hid'
  · obtain ⟨hw, hle⟩ := h.earliest ht hall id' hid'
    have hnow := h.sampled
    show uxTime ≤ s.w.uxNextActivation id'
    omega
  · obtain rfl := List.mem_singleton.mp hid'
    exact Nat.le_of_eq h.activation.symm

/-! ## The rounds -/

/-- When the controller goes to sleep, it wakes in time exactly when no activation that the round found has come,
or when it does not sleep at all. -/
def SleepExact (cfg : Config) : Call → System → Prop
  | .ulTaskNotifyTake _ uxTicks, s => s.w.xTickCount < 2 ^ 32 →
      (s.record.EndsInTime uxTicks ↔ uxMaxSleep cfg = 0 ∨ ∀ a ∈ s.record.notReady, s.record.uxNow < a.2)
  | _, _ => True

theorem vNetworkQueueAddWakeupEvent_wp (hentry : ∀ p, entry p → Notifies p none) {id : CbsId} (hid : id ∈ all)
    {uxTime : Nat} {s : System} (h : Round all seen found s) (ha : s.w.uxNextActivation id = uxTime) :
    wp (sem cfg entry) (SleepExact cfg) (vNetworkQueueAddWakeupEvent uxTime)
      (fun _ => Round all (seen ++ [id]) found) s := by
  have hst : Stable (sem cfg entry) fun s => Round all seen found s ∧ s.w.uxNextActivation id = uxTime :=
    TasksOk.stable_of hentry (fun _ h => h.1.tasks) fun _ _ h hT hk => ⟨h.1.keep hT hk, hk.uxNextActivation ▸ h.2⟩
  simp only [vNetworkQueueAddWakeupEvent, call_eq, Prog.call_bind, Prog.ret_bind]
  refine wp_call hst ⟨h, ha⟩ (fun _ _ => trivial) ?_
  rintro s uxNow w' ⟨h, ha⟩ hw
  cases hw
  have hrep : Reports all seen found id uxTime (wrap32 s.w.xTickCount)
      (s.called ⟨.xTaskGetTickCount, wrap32 s.w.xTickCount⟩ s.w) := by
    refine ⟨h.called (.refl _) rfl, hid, ha, wrap32_le _, fun ht hnow => h.armed ?_⟩
    rwa [wrap32_of_lt (show s.w.xTickCount < 2 ^ 32 from ht)] at hnow
  generalize wrap32 s.w.xTickCount = uxNow at hrep ⊢
  refine wp_call (Reports.stable hentry) hrep (fun _ _ => trivial) ?_
  intro s' uxNextWakeup w' h hw
  cases hw
  have h' : Reports all seen found id uxTime uxNow (s'.called ⟨.loadNextWakeup, s'.w.uxNextWakeup⟩ s'.w) :=
    ⟨h.toRound.called (.refl _) rfl, h.mem, h.activation, h.sampled, h.ahead⟩
  by_cases hlt : uxTime < s'.w.uxNextWakeup ∨ s'.w.uxNextWakeup ≤ uxNow
  · have hst' : Stable (sem cfg entry) fun s =>
        Reports all seen found id uxTime uxNow s ∧ s.w.uxNextWakeup = s'.w.uxNextWakeup :=
      TasksOk.stable_of hentry (fun _ h => h.1.tasks)
        fun _ _ h hT hk => ⟨h.1.keep hT hk, hk.uxNextWakeup.trans h.2⟩
    rw [if_pos hlt]
    refine wp_call hst' ⟨h', rfl⟩ (fun _ _ => trivial) ?_
    rintro s _ w' ⟨h, he⟩ hw
    cases hw
    exact wp.ret_of_stable (Round.stable hentry) (h.stored (he ▸ hlt) rfl) fun _ h => h
  · rw [if_neg hlt]
    exact wp.ret_of_stable (Round.stable hentry) (h'.kept (by simp; omega) (by simp; omega)) fun _ h => h

/-- A ready scheduler is charged. The activation that changes has come, so it is not the event. -/
theorem Shaped.charged {s : System} {e : Event} {id : CbsId} {uxTime : Nat} (h : Shaped all s)
    (hid : s.w.uxNextActivation id ≤ s.w.xTickCount) (ht : uxTime < 2 ^ 32) :
    Shaped all (s.called e { s.w with uxNextActivation := Function.update s.w.uxNextActivation id uxTime }) := by
  refine ⟨h.tasks, fun id' => ?_, h.uxNextWakeup, fun hw => ?_⟩
  · by_cases hi : id' = id
    · subst hi
      simpa using ht
    · simpa [hi] using h.uxNextActivation id'
  · obtain ⟨id', hid', ha⟩ := h.armed hw
    have hne : id' ≠ id := by
      rintro rfl
      exact absurd hw (by simp only [System.called_w]; omega)
    exact ⟨id', hid', by simpa [hne] using ha⟩

def ReadyOutcome (all seen : List CbsId) (id : CbsId) (q : QueueHandle) (r : Bool) (s : System) : Prop :=
  if r then Shaped all s ∧ s.w.queues q ≠ [] else Round all (seen ++ [id]) (seen ++ [id]) s

theorem ReadyOutcome.stable (hentry : ∀ p, entry p → Notifies p none) (id : CbsId) (q : QueueHandle) (r : Bool) :
    Stable (sem cfg entry) (ReadyOutcome all seen id q r) := by
  cases r with
  | false => exact Round.stable hentry
  | true => exact TasksOk.stable_of hentry (fun _ h => h.1.tasks) fun _ _ h hT hk => ⟨h.1.keep hT hk, hk.queues _ h.2⟩

/-- A scheduler whose activation has come is charged for the packet at the head of its queue. -/
theorem prvCBSReady_ready (hentry : ∀ p, entry p → Notifies p none) (c : SchedulerCBS) (q : NetworkQueue)
    {uxNow uxNextActivation : Nat} {s : System} (h : Shaped all s)
    (ha : s.w.uxNextActivation c.id ≤ s.w.xTickCount) :
    wp (sem cfg entry) (SleepExact cfg)
      (do
        let pxNextPacket ← deref (← pxPeekNextPacket (some q))
        let (d, _) ← call (.loadBuf pxNextPacket)
        if c.uxBandwidth = 0 then
          fault .divZero
        else
          call (.storeNextActivation c.id (uxCBSCharge uxNextActivation uxNow (uxCBSMaxDelay cfg c)
            (uxCBSDelay cfg c d.xDataLength)))
          return true)
      (ReadyOutcome all seen c.id q.xQueue) s := by
  have hst : Stable (sem cfg entry) fun s => Shaped all s ∧ s.w.uxNextActivation c.id ≤ s.w.xTickCount :=
    TasksOk.stable_of hentry (fun _ h => h.1.tasks) fun s s' h hT hk =>
      ⟨h.1.keep hT hk, hk.uxNextActivation ▸ Nat.le_trans h.2 hk.xTickCount⟩
  have hst' : Stable (sem cfg entry) fun s =>
      (Shaped all s ∧ s.w.uxNextActivation c.id ≤ s.w.xTickCount) ∧ s.w.queues q.xQueue ≠ [] :=
    TasksOk.stable_of hentry (fun _ h => h.1.1.tasks) fun s s' h hT hk =>
      ⟨⟨h.1.1.keep hT hk, hk.uxNextActivation ▸ Nat.le_trans h.1.2 hk.xTickCount⟩, hk.queues _ h.2⟩
  simp only [pxPeekNextPacket, deref, call_eq, Prog.pure_eq, Prog.ret_bind, Prog.call_bind]
  refine wp_call hst ⟨h, ha⟩ (fun _ _ => trivial) ?_
  rintro s r w' ⟨h, ha⟩ hw
  cases hw
  cases hq : s.w.queues q.xQueue with
  | nil =>
      simp only [List.head?_nil, Prog.ret_bind, fault_bind]
      exact fault_wp fun _ => trivial
  | cons xItem is =>
      cases hb : xItem.pxBuf with
      | none =>
          simp only [List.head?_cons, hb, Prog.ret_bind, fault_bind]
          exact fault_wp fun _ => trivial
      | some b =>
          simp only [List.head?_cons, hb, Prog.ret_bind]
          refine wp_call hst' ⟨⟨h.called (.refl _), ha⟩, by simp [hq]⟩ (fun _ _ => trivial) ?_
          rintro s d w' ⟨⟨h, ha⟩, hne⟩ hw
          cases hw
          by_cases hB : c.uxBandwidth = 0
          · rw [if_pos hB]
            exact fault_wp fun _ => trivial
          · rw [if_neg hB]
            refine wp_call hst' ⟨⟨h.called (.refl _), ha⟩, hne⟩ (fun _ _ => trivial) ?_
            rintro s _ w' ⟨⟨h, ha⟩, hne⟩ hw
            cases hw
            exact wp.ret_of_stable (ReadyOutcome.stable hentry c.id q.xQueue true)
              ⟨h.charged ha (wrap32_lt _), hne⟩ fun _ h => h

theorem prvCBSReady_wp (hentry : ∀ p, entry p → Notifies p none) (c : SchedulerCBS) (hc : c.id ∈ all)
    (q : NetworkQueue) {s : System} (h : Round all seen seen s) :
    wp (sem cfg entry) (SleepExact cfg) (prvCBSReady cfg c (some q)) (ReadyOutcome all seen c.id q.xQueue) s := by
  rw [prvCBSReady]
  simp only [call_eq, Prog.call_bind, Prog.ret_bind]
  refine wp_call (Round.stable hentry) h (fun _ _ => trivial) ?_
  intro s uxNow w' h hw
  cases hw
  have hst : Stable (sem cfg entry) fun s' =>
      Round all seen seen s' ∧ s'.record.uxNow = wrap32 s.w.xTickCount ∧ s.w.xTickCount ≤ s'.w.xTickCount :=
    TasksOk.stable_of hentry (fun _ h => h.1.tasks) fun _ _ h hT hk =>
      ⟨h.1.keep hT hk, System.record_keep hk ▸ h.2.1, Nat.le_trans h.2.2 hk.xTickCount⟩
  refine wp_call hst ⟨h.called (.refl _) rfl, by simp [RoundRecord.add], Nat.le_refl _⟩ (fun _ _ => trivial) ?_
  rintro s' uxNextActivation w' ⟨h, hnow, hle⟩ hw
  cases hw
  by_cases hr : s'.w.uxNextActivation c.id ≤ wrap32 s.w.xTickCount
  · rw [if_pos hr]
    have ha : s'.w.uxNextActivation c.id ≤ s'.w.xTickCount :=
      Nat.le_trans hr (Nat.le_trans (wrap32_le _) hle)
    exact prvCBSReady_ready hentry c q (h.toShaped.called (.refl _)) ha
  · rw [if_neg hr]
    have hadd : (s'.record.add ⟨.loadNextActivation c.id, s'.w.uxNextActivation c.id⟩).notReady =
        s'.record.notReady ++ [(c.id, s'.w.uxNextActivation c.id)] := by
      rw [RoundRecord.add, hnow, if_pos (by omega)]
    have hround : Round all seen (seen ++ [c.id])
        (s'.called ⟨.loadNextActivation c.id, s'.w.uxNextActivation c.id⟩ s'.w) :=
      ⟨h.toShaped.called (.refl _), h.earliest, by simp [hadd, h.record]⟩
    refine wp.bind (wp.mono ?_ (vNetworkQueueAddWakeupEvent_wp hentry hc hround rfl))
    intro _ s h
    exact wp.ret_of_stable (ReadyOutcome.stable hentry c.id q.xQueue false) h fun _ h => h

/-! ## The traversal -/

/-- The outcome of a traversal of the schedulers `cs`: without a queue, none of them was ready. -/
def Visited (all seen : List CbsId) (cs : List SchedulerCBS) (r : Option NetworkQueue) (s : System) : Prop :=
  if r.isSome then Shaped all s else Round all (seen ++ cs.map (·.id)) (seen ++ cs.map (·.id)) s

theorem Visited.stable (hentry : ∀ p, entry p → Notifies p none) (cs : List SchedulerCBS)
    (r : Option NetworkQueue) : Stable (sem cfg entry) (Visited all seen cs r) := by
  cases r with
  | none => exact Round.stable hentry
  | some q => exact Shaped.stable hentry

theorem prvCallTerminal_round (hentry : ∀ p, entry p → Notifies p none) (q : NetworkQueue) {s : System}
    (h : Round all seen seen s) :
    wp (sem cfg entry) (SleepExact cfg) (prvCallTerminal q) (Visited all seen []) s := by
  simp only [prvCallTerminal, xNetworkQueueIsEmpty, call_eq, Prog.call_bind, Prog.ret_bind, Prog.pure_eq]
  refine wp_call (Round.stable hentry) h (fun _ _ => trivial) ?_
  intro s n w' h hw
  cases hw
  have h' := h.called (e := ⟨.uxQueueMessagesWaiting q.xQueue, (s.w.queues q.xQueue).length⟩) (.refl _) rfl
  split
  · exact wp.ret_of_stable (Visited.stable hentry [] none) (by simpa [Visited] using h') fun _ h => h
  · exact wp.ret_of_stable (Visited.stable hentry [] (some q)) h'.toShaped fun _ h => h

/-- The queue of a shaper that was ready is not empty, so it is selected. -/
theorem prvCallTerminal_ready (hentry : ∀ p, entry p → Notifies p none) (q : NetworkQueue)
    (cs : List SchedulerCBS) {s : System} (h : Shaped all s ∧ s.w.queues q.xQueue ≠ []) :
    wp (sem cfg entry) (SleepExact cfg) (prvCallTerminal q) (Visited all seen cs) s := by
  have hst : Stable (sem cfg entry) fun s => Shaped all s ∧ s.w.queues q.xQueue ≠ [] :=
    @ReadyOutcome.stable cfg entry all seen hentry 0 q.xQueue true
  simp only [prvCallTerminal, xNetworkQueueIsEmpty, call_eq, Prog.call_bind, Prog.ret_bind, Prog.pure_eq]
  refine wp_call hst h (fun _ _ => trivial) ?_
  rintro s n w' ⟨h, hne⟩ hw
  cases hw
  rw [if_neg (by simpa using hne)]
  exact wp.ret_of_stable (Visited.stable hentry cs (some q)) (h.called (.refl _)) fun _ h => h

mutual
theorem pxNetworkSchedulerCall_round (hentry : ∀ p, entry p → Notifies p none) {seen : List CbsId} :
    (n : NetworkNode) → n.WellFormed → (∀ c ∈ n.cbsNodes, c.id ∈ all) → {s : System} →
    Round all seen seen s →
    wp (sem cfg entry) (SleepExact cfg) (pxNetworkSchedulerCall cfg n) (Visited all seen n.cbsNodes) s
  | .null, hn, _, _, _ => hn.elim
  | .mk _ sched (some q) _, _, hc, s, h => by
      simp only [pxNetworkSchedulerCall, netschedCallReadyFromNode, NetworkNode.cbsNodes] at hc ⊢
      cases hr : sched.fnReady with
      | prvAlwaysReady =>
          simp only [Prog.pure_eq, Prog.ret_bind]
          exact prvCallTerminal_round hentry q h
      | prvCBSReady c =>
          refine wp.bind (wp.mono ?_ (prvCBSReady_wp hentry c (hc c (by simp [hr])) q h))
          intro r s h
          cases r with
          | false => exact wp.ret_of_stable (Visited.stable hentry [c] none) h fun _ h => h
          | true => exact prvCallTerminal_ready hentry q [c] h
  | .mk n sched none next, hn, hc, s, h => by
      obtain ⟨hlen, hr, hfirst, hnext⟩ := hn
      simp only [pxNetworkSchedulerCall, netschedCallReadyFromNode, hr, Prog.pure_eq, Prog.ret_bind]
      simp only [NetworkNode.cbsNodes] at hc ⊢
      cases hsel : sched.fnSelect with
      | prvPrioritySelect => exact prvPrioritySelect_round hentry n next hlen hnext hc h
      | prvSelectFirst => exact prvSelectFirst_round hentry next (hfirst hsel) hnext hc h

theorem prvSelectFirst_round (hentry : ∀ p, entry p → Notifies p none) {seen : List CbsId} :
    (ns : List NetworkNode) → ns.length = 1 → WellFormedList ns → (∀ c ∈ cbsNodesList ns, c.id ∈ all) →
    {s : System} → Round all seen seen s →
    wp (sem cfg entry) (SleepExact cfg) (prvSelectFirst cfg ns) (Visited all seen (cbsNodesList ns)) s
  | [], hl, _, _, _, _ => by simp at hl
  | child :: ns, hl, hn, hc, s, h => by
      obtain rfl : ns = [] := by simpa using hl
      simp only [prvSelectFirst, cbsNodesList, List.append_nil] at hc ⊢
      exact pxNetworkSchedulerCall_round hentry child hn.1 hc h

theorem prvPrioritySelect_round (hentry : ∀ p, entry p → Notifies p none) {seen : List CbsId} :
    (n : Nat) → (ns : List NetworkNode) → n = ns.length → WellFormedList ns →
    (∀ c ∈ cbsNodesList ns, c.id ∈ all) → {s : System} → Round all seen seen s →
    wp (sem cfg entry) (SleepExact cfg) (prvPrioritySelect cfg n ns) (Visited all seen (cbsNodesList ns)) s
  | 0, [], _, _, _, s, h => by
      exact wp.ret_of_stable (Visited.stable hentry [] none) (by simpa [Visited] using h) fun _ h => h
  | n + 1, child :: ns, hl, hn, hc, s, h => by
      simp only [cbsNodesList, List.mem_append] at hc
      simp only [prvPrioritySelect]
      refine wp.bind (wp.mono ?_ (pxNetworkSchedulerCall_round hentry child hn.1 (fun c h => hc c (.inl h)) h))
      intro r s h
      cases r with
      | some q => exact wp.ret_of_stable (Visited.stable hentry _ (some q)) h fun _ h => h
      | none =>
          refine wp.mono ?_
            (prvPrioritySelect_round hentry n ns (by simpa using hl) hn.2 (fun c h => hc c (.inr h)) h)
          intro r s h
          simpa only [Visited, cbsNodesList, List.map_append, List.append_assoc] using h
end

/-! ## The loops -/

theorem uxTicksUntil_pos {uxNow uxNextWakeup : Nat} (hw : uxNextWakeup < 2 ^ 32) :
    0 < uxTicksUntil uxNow uxNextWakeup := by
  rw [uxTicksUntil]
  split
  case isTrue hlt =>
    rw [sub32_of_le (Nat.le_of_lt hlt) hw]
    omega
  case isFalse => decide

/-- The sleep ends in time exactly when no activation has come, given that the event is then the earliest and that it
ends no later than the event. -/
theorem endsInTime_iff {uxNow uxNextWakeup uxTicks : Nat} {as : List (CbsId × Nat)} (hw : uxNextWakeup < 2 ^ 32)
    (h : (∀ a ∈ as, uxNow < a.2) → ∀ a ∈ as, uxNow < uxNextWakeup ∧ uxNextWakeup ≤ a.2)
    (hle : uxTicks ≤ uxTicksUntil uxNow uxNextWakeup) (hzero : uxTicks = 0 ↔ uxMaxSleep cfg = 0) :
    (RoundRecord.mk uxNow as).EndsInTime uxTicks ↔ uxMaxSleep cfg = 0 ∨ ∀ a ∈ as, uxNow < a.2 := by
  rw [← hzero]
  constructor
  · intro hend
    by_cases h0 : uxTicks = 0
    · exact Or.inl h0
    · refine Or.inr fun a ha => ?_
      by_cases hlt : uxNow < a.2
      · exact hlt
      · exact absurd ((hend a ha).2 (Nat.le_of_not_lt hlt)) h0
  · rintro (h0 | hall) a ha
    · simp [h0]
    · obtain ⟨hahead, hearliest⟩ := h hall a ha
      have hlt := hall a ha
      refine ⟨fun _ => ?_, fun hge => absurd hlt (Nat.not_lt_of_le hge)⟩
      rw [uxTicksUntil, if_pos hahead, sub32_of_le (Nat.le_of_lt hahead) hw] at hle
      exact hle.trans (Nat.sub_le_sub_right hearliest uxNow)

/-- What holds when a loop is entered: before a sleep, a round that found every scheduler not ready, or none yet. -/
def LoopShaped (all : List CbsId) : ControllerLoop → System → Prop
  | .outer, s => ∃ seen, (seen = [] ∨ seen = all) ∧ Round all seen seen s
  | .inner, s => Shaped all s

/-- The controller is computing its sleep, and has sampled the tick. -/
structure Sleeps (all seen : List CbsId) (s : System) : Prop extends Round all seen seen s where
  sampled : s.w.xTickCount < 2 ^ 32 → Earliest all seen s.record.uxNow s.w

theorem Sleeps.keep {s s' : System} (h : Sleeps all seen s) (hT : TasksOk s') (hk : TasksKeep s s') :
    Sleeps all seen s' := by
  refine ⟨h.toRound.keep hT hk, ?_⟩
  rw [System.record_keep hk, Earliest, hk.uxNextActivation, hk.uxNextWakeup]
  exact fun ht => h.sampled (Nat.lt_of_le_of_lt hk.xTickCount ht)

/-- What is known of the sleep that the controller computes from a sample of the tick and the event. -/
structure SleepsAt (all seen : List CbsId) (uxNow uxEvent : Nat) (s : System) : Prop extends Sleeps all seen s where
  now : s.record.uxNow = uxNow
  event : s.w.uxNextWakeup = uxEvent

theorem SleepsAt.stable (hentry : ∀ p, entry p → Notifies p none) {uxNow uxNextWakeup : Nat} :
    Stable (sem cfg entry) (SleepsAt all seen uxNow uxNextWakeup) :=
  TasksOk.stable_of hentry (fun _ h => h.tasks) fun _ _ h hT hk =>
    ⟨h.toSleeps.keep hT hk, System.record_keep hk ▸ h.now, hk.uxNextWakeup.trans h.event⟩

theorem SleepsAt.endsInTime {s : System} {uxNow uxNextWakeup uxTicks : Nat} (h : SleepsAt all seen uxNow uxNextWakeup s)
    (hseen : seen = [] ∨ seen = all) (ht : s.w.xTickCount < 2 ^ 32)
    (hle : uxTicks ≤ uxTicksUntil uxNow uxNextWakeup) (hzero : uxTicks = 0 ↔ uxMaxSleep cfg = 0) :
    s.record.EndsInTime uxTicks ↔ uxMaxSleep cfg = 0 ∨ ∀ a ∈ s.record.notReady, s.record.uxNow < a.2 := by
  have hearliest := h.sampled ht
  have hrecord := h.record
  have hwakeup := h.uxNextWakeup
  have hnow := h.now
  rw [h.event] at hwakeup
  generalize s.record = r at hearliest hrecord hnow ⊢
  obtain ⟨_, as⟩ := r
  dsimp only at hnow
  subst hnow
  refine endsInTime_iff hwakeup (fun hall a ha => ?_) hle hzero
  dsimp only at hrecord
  rw [hrecord] at hall ha
  obtain ⟨id, hid, rfl⟩ := List.mem_map.mp ha
  rcases hseen with rfl | rfl
  · cases hid
  · rw [← h.event]
    exact hearliest (fun id' hid' => hall _ (List.mem_map_of_mem hid')) id hid

theorem prvTSNControllerWait_shaped (hentry : ∀ p, entry p → Notifies p none) (hseen : seen = [] ∨ seen = all)
    {s : System} {uxNow uxNextWakeup uxTicks : Nat} (h : SleepsAt all seen uxNow uxNextWakeup s)
    (hle : uxTicks ≤ uxTicksUntil uxNow uxNextWakeup) (hzero : uxTicks = 0 ↔ uxMaxSleep cfg = 0) :
    wp (sem cfg entry) (SleepExact cfg) (prvTSNControllerWait uxTicks) (LoopShaped all) s := by
  refine wp_call (SleepsAt.stable hentry) h (fun s h ht => h.endsInTime hseen ht hle hzero) ?_
  intro s n w' h hw
  cases hw
  exact wp.ret_of_stable (Shaped.stable hentry) (h.toShaped.called ⟨rfl, rfl, rfl⟩) fun _ h => h

/-- A sample of the tick and of the event, after which the round is still what it was. -/
theorem sample_shaped (hentry : ∀ p, entry p → Notifies p none) {k : Nat → Nat → P ControllerLoop}
    (hk : ∀ uxNow uxNextWakeup s, SleepsAt all seen uxNow uxNextWakeup s →
      wp (sem cfg entry) (SleepExact cfg) (k uxNow uxNextWakeup) (LoopShaped all) s)
    {s : System} (h : Round all seen seen s) :
    wp (sem cfg entry) (SleepExact cfg)
      (.call (σ := Calls) .xTaskGetTickCount fun uxNow =>
        .call (σ := Calls) .loadNextWakeup fun uxNextWakeup => k uxNow uxNextWakeup) (LoopShaped all) s := by
  refine wp_call (Round.stable hentry) h (fun _ _ => trivial) ?_
  intro s uxNow w' h hw
  cases hw
  have hs : Sleeps all seen (s.called ⟨.xTaskGetTickCount, wrap32 s.w.xTickCount⟩ s.w) := by
    refine ⟨h.called (.refl _) rfl, fun ht => ?_⟩
    have ht' : s.w.xTickCount < 2 ^ 32 := ht
    simpa [RoundRecord.add, wrap32_of_lt ht'] using h.earliest ht'
  have hnow : (s.called ⟨.xTaskGetTickCount, wrap32 s.w.xTickCount⟩ s.w).record.uxNow = wrap32 s.w.xTickCount := by
    simp [RoundRecord.add]
  generalize s.called ⟨.xTaskGetTickCount, wrap32 s.w.xTickCount⟩ s.w = s₁ at hs hnow
  generalize wrap32 s.w.xTickCount = uxNow at hnow ⊢
  have hst : Stable (sem cfg entry) fun s => Sleeps all seen s ∧ s.record.uxNow = uxNow :=
    TasksOk.stable_of hentry (fun _ h => h.1.tasks) fun _ _ h hT hk =>
      ⟨h.1.keep hT hk, System.record_keep hk ▸ h.2⟩
  refine wp_call hst ⟨hs, hnow⟩ (fun _ _ => trivial) ?_
  rintro s uxNextWakeup w' ⟨h, hnow⟩ hw
  cases hw
  refine hk _ _ _ ⟨⟨h.toRound.called (.refl _) rfl, ?_⟩, ?_, rfl⟩
  · simpa [RoundRecord.add] using h.sampled
  · simpa [RoundRecord.add] using hnow

theorem prvTSNControllerSleep_shaped (hentry : ∀ p, entry p → Notifies p none) {s : System}
    (h : LoopShaped all .outer s) :
    wp (sem cfg entry) (SleepExact cfg) (prvTSNControllerSleep cfg) (LoopShaped all) s := by
  obtain ⟨seen, hseen, h⟩ := h
  rw [prvTSNControllerSleep_eq]
  refine sample_shaped hentry (fun uxNow uxNextWakeup s h => ?_) h
  rw [prvTSNControllerResample]
  split
  case isTrue hlt =>
    -- What counts is the second sample.
    refine sample_shaped hentry (fun uxNow' uxNextWakeup' s h => ?_) h.toRound
    have hpos := @uxTicksUntil_pos uxNow' _ (h.event ▸ h.uxNextWakeup)
    exact prvTSNControllerWait_shaped hentry hseen h (Nat.le_refl _) (by omega)
  case isFalse hge => exact prvTSNControllerWait_shaped hentry hseen h (Nat.le_of_not_lt hge) Iff.rfl

theorem Acts.sameShape {o : Call} {w w' : World} {r : Call.Res o} (ho : o.Serving) (h : Acts cfg o w r w') :
    SameShape w w' := by
  cases o with
  | serve q i => exact ⟨h.uxNextActivation, h.uxNextWakeup, h.xTickCount⟩
  | xQueueReceive q t => cases h; exact ⟨rfl, rfl, rfl⟩
  | uxQueueMessagesWaiting q => cases h; exact ⟨rfl, rfl, rfl⟩
  | loadQueueList => cases h; exact ⟨rfl, rfl, rfl⟩
  | vTaskPrioritySet p => cases h; exact ⟨rfl, rfl, rfl⟩
  | _ => exact ho.elim

theorem prvTSNControllerServe_shaped (hentry : ∀ p, entry p → Notifies p none) {root : NetworkNode}
    (hroot : root.WellFormed) {s : System} (h : Shaped (root.cbsNodes.map (·.id)) s) (hr : s.round = []) :
    wp (sem cfg entry) (SleepExact cfg) (prvTSNControllerServe cfg root)
      (LoopShaped (root.cbsNodes.map (·.id))) s := by
  rw [prvTSNControllerServe, xNetworkQueueSchedule_eq hroot]
  have h₀ : Round (root.cbsNodes.map (·.id)) [] [] s := .fresh h hr
  refine wp.bind (wp.mono ?_
    (pxNetworkSchedulerCall_round hentry root hroot (fun _ hc => List.mem_map_of_mem hc) h₀))
  intro r s h
  cases r with
  | none =>
      refine wp.ret_of_stable (Visited.stable hentry root.cbsNodes none) h fun s h => ?_
      exact ⟨_, Or.inr rfl, by simpa [Visited] using h⟩
  | some q =>
      refine wp.mono ?_ (prvTSNControllerServeQueue_wp (Shaped.stable hentry) ?_
        (fun _ _ _ _ ho h hw => h.called (Acts.sameShape ho hw)) q h)
      · rintro _ s ⟨rfl, h⟩
        exact h
      · intro o s ho
        cases o <;> first | exact ho.elim | trivial

theorem prvTSNController_shaped (hentry : ∀ p, entry p → Notifies p none) {root : NetworkNode}
    (hroot : root.WellFormed) (l : ControllerLoop) {s : System} (h : LoopShaped (root.cbsNodes.map (·.id)) l s) :
    wp (sem cfg entry) (SleepExact cfg) ((controller cfg root).body l) (LoopShaped (root.cbsNodes.map (·.id)))
      ((controller cfg root).enter l s) := by
  cases l with
  | outer => exact prvTSNControllerSleep_shaped hentry h
  | inner =>
      exact prvTSNControllerServe_shaped hentry hroot ⟨h.tasks, h.uxNextActivation, h.uxNextWakeup, h.armed⟩ rfl

theorem StartsShaped.loop {s : System} (h : StartsShaped s) (all : List CbsId) : LoopShaped all .outer s := by
  refine ⟨[], Or.inl rfl, .fresh ⟨h.tasksOk, h.uxNextActivation, by simp [h.uxNextWakeup], fun hw => ?_⟩ h.round⟩
  rw [h.uxNextWakeup] at hw
  exact absurd hw (Nat.not_lt_zero _)

end FreeRtosTsn.Scheduler
