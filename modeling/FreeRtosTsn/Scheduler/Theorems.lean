import FreeRtosTsn.Scheduler.Lemmas.Wakeup
import FreeRtosTsn.Scheduler.Lemmas.Sleep
import FreeRtosTsn.Scheduler.Lemmas.Shaper
import FreeRtosTsn.Scheduler.Lemmas.Priority
import FreeRtosTsn.Scheduler.Lemmas.Service
import FreeRtosTsn.Scheduler.Lemmas.Round
import FreeRtosTsn.Scheduler.Lemmas.Wrap
import FreeRtosTsn.Scheduler.Order
import FreeRtosTsn.Scheduler.Filter

/-!
# Main results of the scheduler

The controller never sleeps on a queue that nobody will tell it about, and wakes in time for its shapers as long as
their time does not come before it sleeps. A shaper keeps to its rate as long as its charges are not rounded.
-/

namespace FreeRtosTsn.Scheduler

open Lib Kernel Relation

/-! ## A node with one queue -/

/-- A queue that takes every frame to send or to deliver. -/
def frameQueue : NetworkQueue := ⟨0, 0, .eSendRecv, [], prvAlwaysTrue⟩

/-- A frame to send. -/
def txItem : NetworkQueueItem := ⟨.eNetworkTxEvent, some 0, none, true⟩

/-- `frameQueue` under a FIFO node. -/
def fifoRoot : NetworkNode := .mk 1 {} (some frameQueue) [.null]

/-- `frameQueue` under a shaper for 800 kbit/s. -/
def cbsRoot : NetworkNode := .mk 1 { fnReady := .prvCBSReady ⟨0, 800000, 0⟩ } (some frameQueue) [.null]

/-- A node that has just booted, whose frames have 100 bytes. -/
def bootSystem : System where
  w := { World.boot {} with bufs := fun b => ⟨.eth b 0, 100, none, none, 0, 0, .ipv4 0⟩ }
  tasks := fun _ => .ret true
  enqueued := fun _ => none
  untaken := 0
  round := []

theorem bootSystem_starts : StartsShaped bootSystem where
  idle := fun _ => ⟨true, rfl⟩
  enqueued := fun _ => rfl
  queues := fun _ => rfl
  round := rfl
  uxNextWakeup := rfl
  uxNextActivation := fun _ => Nat.two_pow_pos 32

/-! ## Wakeups -/

/-- **No lost wakeup**: when the controller is blocked with no notification, every queue under the root is empty,
unless a task sent to it and has not notified the controller yet, as long as fewer than 2^32 notifications wait to be
taken. -/
theorem push_never_lost {cfg : Config} {root : NetworkNode} (hroot : root.WellFormed) (hcbs : root.cbsNodes = [])
    {s₀ s : System} (hs₀ : Starts s₀) (hcount : s₀.Counted) {uxTimeToSleep : Nat} {k : Nat → P ControllerLoop}
    (hs : Reachable cfg root (Pushes cfg) s₀ (.call (σ := Calls) (.ulTaskNotifyTake true uxTimeToSleep) k, s))
    (huntaken : s.untaken < 2 ^ 32) (hv : s.w.ulNotifiedValue = 0) :
    ∀ q ∈ root.linkedQueues, s.w.queues q.xQueue = [] ∨ ∃ t, s.enqueued t = some q.xQueue := by
  have hentry : ∀ p, Pushes cfg p → Notifies p none := by
    rintro p ⟨q, i, t, rfl⟩
    exact xNetworkQueuePush_notifies cfg q i t
  have hstart : wp (sem cfg (Pushes cfg)) (BlocksCovered root.linkedQueues) (prvTSNController cfg root .outer)
      (LoopCovered root.linkedQueues) s₀ := prvTSNControllerSleep_wp hentry (hs₀.covered _)
  have hall := Loops.Reach.wp (fun l s h => prvTSNController_wp hentry hroot hcbs l h) hs hstart
  -- The value has not wrapped, so it shows every notification.
  have hvalue : s.w.ulNotifiedValue = wrap32 s.untaken := hs.counted hcount
  rw [hv, wrap32_of_lt huntaken] at hvalue
  exact hall.pre_call hvalue.symm

/-- A task sends while the controller sleeps. -/
theorem push_never_lost_sent : ∃ uxTimeToSleep k s,
    Reachable {} fifoRoot (Pushes {}) bootSystem
      (.call (σ := Calls) (.ulTaskNotifyTake true uxTimeToSleep) k, s) ∧
    s.w.queues 0 = [txItem] ∧ ∃ t, s.enqueued t = some 0 := by
  have h₀ : Reachable {} fifoRoot (Pushes {}) bootSystem (prvTSNController {} fifoRoot .outer, bootSystem) := .start
  have h₁ := h₀.samples
  have h₂ := h₁.task (.start (t := 0) rfl ⟨frameQueue, txItem, 50, rfl⟩)
  have h₃ := h₂.task (.call (t := 0) rfl rfl)
  refine ⟨_, _, _, h₃, rfl, ?_⟩
  rcases push_never_lost (show fifoRoot.WellFormed from trivial) rfl bootSystem_starts.toStarts rfl h₃ (by decide) rfl
      frameQueue (List.mem_singleton.mpr rfl) with h | h
  · exact nomatch h
  · exact h

/-- A task makes a whole push with no other step in between. -/
theorem Reachable.pushes {cfg : Config} (hprio : cfg.tsnconfigControllerHasDynamicPrio = false) {root : NetworkNode}
    {s₀ s : System} {p : P ControllerLoop} (h : Reachable cfg root (Pushes cfg) s₀ (p, s)) {t : Nat}
    (ht : s.tasks t = .ret true) (he : s.enqueued t = none) {q : NetworkQueue}
    (hroom : (s.w.queues q.xQueue).length < cfg.ipconfigEventQueueLength) (i : NetworkQueueItem) :
    Reachable cfg root (Pushes cfg) s₀ (p, { s with
      w := { s.w with
        queues := Function.update s.w.queues q.xQueue (s.w.queues q.xQueue ++ [i])
        ulNotifiedValue := wrap32 (s.w.ulNotifiedValue + 1) }
      untaken := s.untaken + 1 }) := by
  have h₁ := h.task (.start ht ⟨q, i, 0, rfl⟩)
  have hpush : xNetworkQueuePush cfg q i 0 = .call (σ := Calls) (.xQueueSendToBack q.xQueue i 0) fun sent =>
      if sent then .call (σ := Calls) .xTaskNotifyGive fun _ => .ret true else .ret false := by
    simp only [xNetworkQueuePush, call_eq, Prog.call_bind, Prog.ret_bind, hprio]
    refine congrArg _ (funext fun sent => ?_)
    cases sent with
    | false => rfl
    | true => rfl
  have hsend := effect_xQueueSendToBack cfg s.w q.xQueue i 0
  rw [if_pos hroom] at hsend
  have h₂ := h₁.task (.call ((Function.update_self t _ _).trans hpush) hsend)
  have h₃ := h₂.task (.call (Function.update_self t _ _) rfl)
  simpa only [Function.update_idem, Function.update_eq_self, Call.pending, Call.untaken, ← ht, ← he] using h₃

/-- `bootSystem` after `n` notifications that were not taken. -/
def notifiedSystem (n : Nat) (round : List Event) : System :=
  { bootSystem with w := { bootSystem.w with ulNotifiedValue := wrap32 n }, untaken := n, round := round }

/-- A task pushes a packet, and the controller serves it in the same loop. -/
theorem notifiedSystem_serves {n : Nat} {round : List Event}
    (h : Reachable {} fifoRoot (Pushes {}) bootSystem (.ret .inner, notifiedSystem n round)) :
    ∃ round', Reachable {} fifoRoot (Pushes {}) bootSystem (.ret .inner, notifiedSystem (n + 1) round') := by
  have h₁ := h.pushes rfl (t := 0) rfl rfl (q := frameQueue) (show 0 < _ by decide) txItem
  have h₂ := (h₁.loop.call rfl).call rfl
  have h₃ := h₂.call (o := .serve _ _) (r := ()) (show SameScheduler _ (notifiedSystem (n + 1) []).w from {
    queues := by
      funext q
      by_cases hq : q = 0 <;> simp [notifiedSystem, bootSystem, World.boot, controller, frameQueue, hq]
    ulNotifiedValue := (wrap32_add_one n).symm
    uxNextActivation := rfl
    uxNextWakeup := rfl
    xTickCount := rfl })
  exact ⟨_, h₃⟩

theorem notifiedSystem_reachable (n : Nat) :
    ∃ round, Reachable {} fifoRoot (Pushes {}) bootSystem (.ret .inner, notifiedSystem n round) := by
  induction n with
  | zero =>
      have h₀ : Reachable {} fifoRoot (Pushes {}) bootSystem (prvTSNController {} fifoRoot .outer, bootSystem) := .start
      exact ⟨_, h₀.samples.call rfl⟩
  | succ n ih =>
      obtain ⟨round, h⟩ := ih
      exact notifiedSystem_serves h

/-- 2^32 - 1 notifications were not taken when the controller finds its queue empty, and the next push wraps the value
to 0: the controller blocks with a packet in the queue and nobody to notify it. -/
theorem push_lost : ∃ uxTimeToSleep k s,
    Reachable {} fifoRoot (Pushes {}) bootSystem (.call (σ := Calls) (.ulTaskNotifyTake true uxTimeToSleep) k, s) ∧
    s.w.ulNotifiedValue = 0 ∧
    ¬ ∀ q ∈ fifoRoot.linkedQueues, s.w.queues q.xQueue = [] ∨ ∃ t, s.enqueued t = some q.xQueue := by
  obtain ⟨round, h⟩ := notifiedSystem_reachable (2 ^ 32 - 1)
  have h₁ := (h.loop.call (o := .uxQueueMessagesWaiting 0) rfl).loop
  have h₂ := h₁.samples.pushes rfl (t := 0) rfl rfl (q := frameQueue) (show 0 < _ by decide) txItem
  refine ⟨_, _, _, h₂, show wrap32 (wrap32 (2 ^ 32 - 1) + 1) = 0 by decide, fun hall => ?_⟩
  rcases hall frameQueue (List.mem_singleton.mpr rfl) with hq | ⟨t, ht⟩
  · exact nomatch hq
  · exact nomatch ht

/-- **Sleep**: the controller wakes no later than the first activation that its last round found ahead exactly when
none of them has come at the last tick that it samples for its sleep, or when it never sleeps. -/
theorem sleep_ends_in_time {cfg : Config} {root : NetworkNode} (hroot : root.WellFormed) {s₀ s : System}
    (hs₀ : StartsShaped s₀) {uxTicks : Nat} {k : Nat → P ControllerLoop}
    (hs : Reachable cfg root (Pushes cfg) s₀ (.call (σ := Calls) (.ulTaskNotifyTake true uxTicks) k, s))
    (ht : s.w.xTickCount < 2 ^ 32) :
    s.record.EndsInTime uxTicks ↔
      uxMaxSleep cfg = 0 ∨ ∀ a ∈ s.record.notReady, s.record.uxNow < a.2 := by
  have hentry : ∀ p, Pushes cfg p → Notifies p none := by
    rintro p ⟨q, i, t, rfl⟩
    exact xNetworkQueuePush_notifies cfg q i t
  have hstart : wp (sem cfg (Pushes cfg)) (SleepExact cfg) (prvTSNController cfg root .outer)
      (LoopShaped (root.cbsNodes.map (·.id))) s₀ := prvTSNControllerSleep_shaped hentry (hs₀.loop _)
  have hall := Loops.Reach.wp (fun l s h => prvTSNController_shaped hentry hroot l h) hs hstart
  exact hall.pre_call ht

/-- One packet is sent and charged one tick, and the next round finds the shaper not ready. -/
theorem one_sent : ∃ s, Reachable {} cbsRoot (Pushes {}) bootSystem (.ret .outer, s) ∧
    s.record.notReady = [(0, 1)] ∧ s.w.xTickCount = 0 ∧ s.w.uxNextWakeup = 1 := by
  have h₀ : Reachable {} cbsRoot (Pushes {}) bootSystem (prvTSNController {} cbsRoot .outer, bootSystem) := .start
  -- A task pushes the packet, so the controller wakes at once.
  have h₁ := h₀.task (.start (t := 0) rfl ⟨frameQueue, txItem, 50, rfl⟩)
  have h₂ := (h₁.task (.call (t := 0) rfl rfl)).task (.call (t := 0) rfl rfl)
  have h₃ := (((h₂.call rfl).call rfl).call rfl).loop
  -- The packet is served, which moves the activation to 1.
  have h₄ := ((((((h₃.call rfl).call rfl).call rfl).call rfl).call rfl).call rfl).call rfl
  have h₅ := (h₄.call (o := .serve _ _) (r := ()) ⟨rfl, rfl, rfl, rfl, rfl⟩).loop
  have h₆ := ((((h₅.call rfl).call rfl).call rfl).call rfl).call rfl
  exact ⟨_, h₆, rfl, rfl, rfl⟩

/-- The controller sleeps before the activation comes. -/
theorem sleep_ends_in_time_ahead : ∃ uxTicks k s,
    Reachable {} cbsRoot (Pushes {}) bootSystem (.call (σ := Calls) (.ulTaskNotifyTake true uxTicks) k, s) ∧
    s.record.notReady ≠ [] ∧ s.record.EndsInTime uxTicks := by
  obtain ⟨s, hs, hrec, ht, hw⟩ := one_sent
  have hfirst := hs.loop.samples
  have hsleep := hfirst.samplesAgain (by simp only [controller, ht, hw]; decide) rfl
  refine ⟨_, _, _, hsleep, ?_, (sleep_ends_in_time (show cbsRoot.WellFormed from trivial) bootSystem_starts hsleep
    ?_).mpr ?_⟩
  · simp [RoundRecord.add, controller, hrec]
  · simp [controller, ht]
  · refine Or.inr ?_
    simp [RoundRecord.add, controller, hrec, ht, wrap32]

/-- The activation comes one tick before the controller samples for its sleep, which then takes as long as it may. If
it comes between the two samples, nothing bounds the sleep. -/
theorem sleep_past_activation :
    (∃ k s, Reachable {} cbsRoot (Pushes {}) bootSystem (.call (σ := Calls) (.ulTaskNotifyTake true 1000) k, s) ∧
      s.w.xTickCount < 2 ^ 32 ∧ ¬ s.record.EndsInTime 1000) ∧
    ∃ k s, Reachable {} cbsRoot (Pushes {}) bootSystem (.call (σ := Calls) (.ulTaskNotifyTake true portMaxDelay) k, s) ∧
      s.w.xTickCount < 2 ^ 32 ∧ ¬ s.record.EndsInTime portMaxDelay := by
  obtain ⟨s, hs, hrec, ht, hw⟩ := one_sent
  have hmem : ((0, 1) : CbsId × Nat) ∈ s.record.notReady := by simp [hrec]
  constructor
  · have hsleep := (hs.loop.task .tick).samples.samplesOnce (by simp only [controller, ht, hw]; decide)
    refine ⟨_, _, hsleep, by simp [controller, ht], fun hend => ?_⟩
    have hzero : 1000 = 0 := by
      refine (hend (0, 1) ?_).2 ?_
      · simpa [System.record, RoundRecord.add, controller, System.called] using hmem
      · simp [RoundRecord.add, controller, ht, wrap32]
    exact absurd hzero (by decide)
  · have hlong : uxTicksUntil (wrap32 (s.w.xTickCount + 1)) s.w.uxNextWakeup = portMaxDelay := by
      rw [ht, hw]
      decide
    have hsleep := (hs.loop.samples.task .tick).samplesAgain (by simp only [controller, ht, hw]; decide) hlong
    refine ⟨_, _, hsleep, by simp [controller, ht], fun hend => ?_⟩
    have hzero : portMaxDelay = 0 := by
      refine (hend (0, 1) ?_).2 ?_
      · simpa [System.record, RoundRecord.add, controller, System.called] using hmem
      · simp [RoundRecord.add, controller, ht, wrap32]
    exact absurd hzero (by decide)

/-! ## Shaping -/

/-- **Rate conformance**: if no packet was charged for less than its time on the wire, the bits that are served in a
window are at most what the bandwidth allows in it, the credit and one packet. -/
theorem shaper_conforms {cfg : Config} {c : SchedulerCBS} {pxQueue : NetworkQueue} (hB : 0 < c.uxBandwidth)
    (hR : 0 < cfg.configTickRateHz) {node : NetworkNode} {w : World} {log : List Served}
    (h : Rounds cfg c pxQueue node w log) (hlog : ∀ p ∈ log, p.Exact cfg c ∧ p.NoWrap cfg c) (t₁ t₂ : Nat) :
    bitsWithin t₁ t₂ log ≤
      c.uxBandwidth * (t₂ - t₁ + 1) / cfg.configTickRateHz + c.uxMaxCredit + largestBits log := by
  obtain ⟨last, -, hpaced⟩ := h.paced hB fun p hp => (hlog p hp).2
  have hcharged : ∀ p ∈ log, (p.job cfg c).cost * c.uxBandwidth = p.bits * cfg.configTickRateHz :=
    fun p hp => (hlog p hp).1.charged (hlog p hp).2 hB
  -- No job costs more than the largest packet takes on the wire.
  have hcost : ∀ j ∈ log.map (Served.job cfg c), j.cost ≤ largestBits log * cfg.configTickRateHz / c.uxBandwidth := by
    intro j hj
    obtain ⟨p, hp, rfl⟩ := List.mem_map.mp hj
    rw [Nat.le_div_iff_mul_le hB, hcharged p hp]
    exact Nat.mul_le_mul_right _ (Served.bits_le_largest hp)
  have hwithin := hpaced.within_le hcost t₁ t₂
  rw [within_map_job] at hwithin
  have hbits := totalCost_mul (log.filter fun p => t₁ ≤ p.uxNow ∧ p.uxNow ≤ t₂)
    fun p hp => hcharged p (List.mem_filter.mp hp).1
  have hlargest := Nat.div_mul_le_self (largestBits log * cfg.configTickRateHz) c.uxBandwidth
  have hcredit := uxCBSMaxDelay_mul_le cfg c
  have hall : bitsWithin t₁ t₂ log * cfg.configTickRateHz ≤
      c.uxBandwidth * (t₂ - t₁ + 1) + (c.uxMaxCredit + largestBits log) * cfg.configTickRateHz := by
    have hmul := Nat.mul_le_mul_right c.uxBandwidth hwithin
    rw [hbits, Nat.add_mul, Nat.add_mul] at hmul
    rw [bitsWithin, Nat.add_mul, Nat.mul_add, Nat.mul_comm c.uxBandwidth]
    omega
  rw [← Nat.le_div_iff_mul_le hR, Nat.add_mul_div_right _ _ hR, ← Nat.add_assoc] at hall
  exact hall

/-- At 800 kbit/s a packet of 100 bytes is charged one tick, so three of them are served in three ticks, and two of them
in the last two. -/
theorem shaper_conforms_thrice : ∃ node w,
    Rounds {} ⟨0, 800000, 0⟩ frameQueue node w [⟨0, 100⟩, ⟨1, 100⟩, ⟨2, 100⟩] ∧
    bitsWithin 1 2 [⟨0, 100⟩, ⟨1, 100⟩, ⟨2, 100⟩] = 1600 ∧
    bitsWithin 1 2 [⟨0, 100⟩, ⟨1, 100⟩, ⟨2, 100⟩] ≤
      800000 * (2 - 1 + 1) / 1000 + 0 + largestBits [⟨0, 100⟩, ⟨1, 100⟩, ⟨2, 100⟩] := by
  have h₀ : Rounds {} ⟨0, 800000, 0⟩ frameQueue (cbsLeaf _ frameQueue) _ [] :=
    .create (w := { bootSystem.w with queues := fun _ => [txItem, txItem, txItem] }) rfl rfl
  obtain ⟨w₁, h₁, ha₁, hq₁, ht₁, hb₁⟩ := h₀.serve_head (by decide) (by decide) rfl rfl
  -- The activation moves by a tick with each packet, and so does the time.
  have ha₁' : w₁.uxNextActivation 0 = 1 := ha₁
  have h₁' : Rounds {} ⟨0, 800000, 0⟩ frameQueue (cbsLeaf _ frameQueue) { w₁ with xTickCount := 1 } _ :=
    h₁.other rfl (Nat.le_trans (Nat.le_of_eq ht₁) (Nat.zero_le 1))
  obtain ⟨w₂, h₂, ha₂, hq₂, ht₂, hb₂⟩ := h₁'.serve_head (by decide) (by simp only [ha₁']; decide) hq₁ rfl
  simp only [ha₁', hb₁] at ha₂ hb₂ h₂
  have h₂' : Rounds {} ⟨0, 800000, 0⟩ frameQueue (cbsLeaf _ frameQueue) { w₂ with xTickCount := 2 } _ :=
    h₂.other rfl (Nat.le_trans (Nat.le_of_eq ht₂) (Nat.le_succ 1))
  have ha₂' : w₂.uxNextActivation 0 = 2 := ha₂
  obtain ⟨w₃, h₃, -⟩ := h₂'.serve_head (by decide) (by simp only [ha₂']; decide) hq₂ rfl
  simp only [hb₂] at h₃
  have hrun : Rounds {} ⟨0, 800000, 0⟩ frameQueue (cbsLeaf ⟨0, 800000, 0⟩ frameQueue) w₃
      [⟨0, 100⟩, ⟨1, 100⟩, ⟨2, 100⟩] := h₃
  have hconforms := shaper_conforms (by decide) (by decide) hrun (by decide) 1 2
  exact ⟨_, w₃, hrun, by decide, hconforms⟩

/-- At 1 Mbit/s the same packet takes less than a millisecond and is charged nothing: three of them are served in
one tick, in which the bandwidth allows for 1000 bits. -/
theorem shaper_serves_free : ∃ node w log, Rounds {} ⟨0, 1000000, 0⟩ frameQueue node w log ∧
    1000000 * (0 - 0 + 1) / 1000 + 0 + largestBits log < bitsWithin 0 0 log := by
  have h₀ : Rounds {} ⟨0, 1000000, 0⟩ frameQueue (cbsLeaf _ frameQueue) _ [] :=
    .create (w := { bootSystem.w with queues := fun _ => [txItem, txItem, txItem] }) rfl rfl
  obtain ⟨w₁, h₁, ha₁, hq₁, ht₁, hb₁⟩ := h₀.serve_head (by decide) (by decide) rfl rfl
  obtain ⟨w₂, h₂, ha₂, hq₂, ht₂, hb₂⟩ := h₁.serve_head (by decide) (by rw [ha₁, ht₁]; decide) hq₁ rfl
  obtain ⟨w₃, h₃, -⟩ := h₂.serve_head (by decide) (by rw [ha₂, ha₁, ht₂, ht₁, hb₁]; decide) hq₂ rfl
  refine ⟨_, w₃, _, h₃, ?_⟩
  rw [hb₂, hb₁, ht₂, ht₁]
  decide

/-- **Conformance of the recurrence**, in ticks: the packets of a window but for the last are charged no more than the
window and the credit, and those of a window that is polled out no less than the window but for one charge. -/
theorem recurrence_conforms {cfg : Config} {c : SchedulerCBS} {pxQueue : NetworkQueue} {t₀ : Nat} {w : World}
    {polls : List Poll} (h : ReadyRun cfg c pxQueue t₀ w polls) (t₁ t₂ : Nat) :
    totalCost (within t₁ t₂ (startedJobs polls)).dropLast ≤ t₂ - t₁ + uxCBSMaxDelay cfg c ∧
      (t₀ ≤ t₁ → (∀ t, t₁ ≤ t → t ≤ t₂ → ⟨t, none⟩ ∈ polls) →
        t₂ - t₁ ≤ totalCost (within t₁ t₂ (startedJobs polls)) + largestCost t₂ (startedJobs polls)) := by
  obtain ⟨last, -, hpolled⟩ := h.polled
  refine ⟨?_, fun ht₀ hout => ?_⟩
  · obtain ⟨last', -, hpaced⟩ := hpolled.paced
    exact hpaced.within_dropLast_le t₁ t₂
  · by_cases hle : t₁ ≤ t₂
    · have hlow := hpolled.le_within ht₀ (fun j hj hjt => cost_le_largest hj hjt) (fun t ht ht' _ => hout t ht ht')
        (hout t₂ hle (Nat.le_refl t₂))
      omega
    · omega

/-- A shaper that is polled out in two ticks serves a packet in each. -/
theorem recurrence_conforms_twice : ∃ w,
    ReadyRun {} ⟨0, 800000, 0⟩ frameQueue 0 w [⟨0, some 1⟩, ⟨0, none⟩, ⟨1, some 1⟩, ⟨1, none⟩] ∧
    totalCost [⟨0, 1⟩] ≤ 1 - 0 + 0 ∧ 1 - 0 ≤ totalCost [⟨0, 1⟩, ⟨1, 1⟩] + 1 := by
  have h₀ : ReadyRun {} ⟨0, 800000, 0⟩ frameQueue 0 _ [] :=
    .create (w := { bootSystem.w with queues := fun _ => [txItem] }) rfl (by decide) rfl
  have h₁ := h₀.ready (b := 0) rfl ⟨by decide, by decide, by decide⟩ rfl
  have h₂ := h₁.notReady (by decide) rfl
  -- The next tick comes.
  have h₃ : ReadyRun {} ⟨0, 800000, 0⟩ frameQueue 0
      { bootSystem.w with queues := fun _ => [txItem], uxNextActivation := fun _ => 1, xTickCount := 1 } _ :=
    h₂.other rfl (by decide)
  have h₄ := h₃.ready (b := 0) rfl ⟨by decide, by decide, by decide⟩ rfl
  have h₅ := h₄.notReady (by decide) rfl
  have hbounds := recurrence_conforms h₅ 0 1
  refine ⟨_, h₅, hbounds.1, hbounds.2 (Nat.le_refl 0) fun t _ ht => ?_⟩
  rcases Nat.le_one_iff_eq_zero_or_eq_one.mp ht with rfl | rfl
  · decide
  · decide

/-! ## The dynamic priority -/

/-- **Dynamic priority**: in the runs where every change of the priority is timely, the controller has the priority
that is due whenever no push and no pop is in progress. -/
theorem priority_due {cfg : Config} (hdyn : cfg.tsnconfigControllerHasDynamicPrio = true) {root : NetworkNode}
    {s₀ s : System} (hs₀ : StartsPriority cfg s₀) {p : P ControllerLoop} (hs : TimelyReachable cfg root s₀ (p, s))
    (hquiet : s.Quiet) : s.w.uxPriority = duePriority cfg s.w := by
  have hdistinct : QueuesDistinct s₀.w.pxNetworkQueueList := hs₀.distinct
  have hstart : wp (prioritySem cfg (PushesTo cfg s₀.w.pxNetworkQueueList))
      (AlwaysPriority cfg s₀.w.pxNetworkQueueList) (prvTSNControllerSleep cfg)
      (fun _ => PriorityAt cfg s₀.w.pxNetworkQueueList .idle) s₀ :=
    scheduling_priority hdyn hdistinct prvTSNControllerSleep_scheduling hs₀.inv
  have hall := Loops.Reach.wp (fun l s h => prvTSNController_priority hdyn hdistinct root l h) hs hstart
  have hinv : PriorityInv cfg s₀.w.pxNetworkQueueList s := by
    cases p with
    | ret l => exact (hall s .refl).1
    | call o k => exact hall.pre_call
  exact hinv.due hdyn hquiet

def slowQueue : NetworkQueue := { frameQueue with uxIPV := 2 }

def fastQueue : NetworkQueue := { frameQueue with xQueue := 1, uxIPV := 3 }

def dynConfig (cfg : Config) : Config := { cfg with tsnconfigControllerHasDynamicPrio := true }

/-- `bootSystem` with the two queues in the list. -/
def dynSystem : System :=
  { bootSystem with w := { bootSystem.w with uxPriority := 1, pxNetworkQueueList := [slowQueue, fastQueue] } }

theorem dynSystem_starts : StartsPriority (dynConfig {}) dynSystem where
  toStarts := ⟨fun _ => ⟨true, rfl⟩, fun _ => rfl, fun _ => rfl, rfl⟩
  uxPriority := rfl
  distinct := by simp [dynSystem, slowQueue, fastQueue, frameQueue]

/-- One task pushes to the fast queue. -/
theorem priority_due_once : ∃ p s, TimelyReachable (dynConfig {}) fifoRoot dynSystem (p, s) ∧ s.Quiet ∧
    s.w.uxPriority = duePriority (dynConfig {}) s.w ∧ s.w.uxPriority = 3 := by
  have hq : fastQueue ∈ dynSystem.w.pxNetworkQueueList := by simp [dynSystem]
  have h₀ : TimelyReachable (dynConfig {}) fifoRoot dynSystem (prvTSNController (dynConfig {}) fifoRoot .outer, dynSystem) :=
    .refl
  have h₁ := h₀.tail (.env ⟨.start (t := 0) (b := true) rfl ⟨fastQueue, hq, txItem, 50, rfl⟩, fun h => absurd rfl h⟩)
  have h₂ := h₁.tail (.env ⟨.call (t := 0) rfl rfl, fun h => absurd rfl h⟩)
  have h₃ := h₂.tail (.env ⟨.call (t := 0) rfl rfl, fun h => absurd rfl h⟩)
  have h₄ := h₃.tail (.env ⟨.call (t := 0) rfl rfl,
    fun _ => Or.inr ⟨by decide, fastQueue, hq, by decide, Or.inl (by decide)⟩⟩)
  have h₅ := h₄.tail (.env ⟨.call (t := 0) rfl rfl, fun h => absurd rfl h⟩)
  refine ⟨_, _, h₅, ?quiet, priority_due rfl dynSystem_starts h₅ ?quiet, rfl⟩
  refine ⟨fun t => ?_, rfl⟩
  by_cases ht : t = 0
  · subst ht
    exact ⟨true, rfl⟩
  · exact ⟨true, by simp [Function.update_of_ne ht, dynSystem, bootSystem]⟩

/-- Both tasks read the base priority, and the push to the slow queue is the last to set it: the fast queue waits at
the priority of the slow one. -/
theorem priority_lost : ∃ p s,
    Reachable (dynConfig {}) fifoRoot (PushesTo (dynConfig {}) dynSystem.w.pxNetworkQueueList) dynSystem (p, s) ∧ s.Quiet ∧
    s.w.uxPriority = 2 ∧ duePriority (dynConfig {}) s.w = 3 := by
  have hslow : slowQueue ∈ dynSystem.w.pxNetworkQueueList := by simp [dynSystem]
  have hfast : fastQueue ∈ dynSystem.w.pxNetworkQueueList := by simp [dynSystem]
  have h₀ : Reachable (dynConfig {}) fifoRoot (PushesTo (dynConfig {}) dynSystem.w.pxNetworkQueueList) dynSystem
      (prvTSNController (dynConfig {}) fifoRoot .outer, dynSystem) := .start
  have h₁ := h₀.task (.start (t := 0) (b := true) rfl ⟨slowQueue, hslow, txItem, 50, rfl⟩)
  have h₂ := h₁.task (.start (t := 1) (b := true) rfl ⟨fastQueue, hfast, txItem, 50, rfl⟩)
  -- Both send and read the priority.
  have h₃ := (h₂.task (.call (t := 0) rfl rfl)).task (.call (t := 0) rfl rfl)
  have h₄ := (h₃.task (.call (t := 1) rfl rfl)).task (.call (t := 1) rfl rfl)
  -- The fast queue is the first to raise it.
  have h₅ := (h₄.task (.call (t := 1) rfl rfl)).task (.call (t := 0) rfl rfl)
  have h₆ := (h₅.task (.call (t := 1) rfl rfl)).task (.call (t := 0) rfl rfl)
  refine ⟨_, _, h₆, ⟨fun t => ?_, rfl⟩, rfl, rfl⟩
  by_cases ht : t = 0
  · subst ht
    exact ⟨true, rfl⟩
  · by_cases ht' : t = 1
    · subst ht'
      exact ⟨true, rfl⟩
    · exact ⟨true, by simp [Function.update_of_ne ht, Function.update_of_ne ht', dynSystem, bootSystem]⟩

/-! ## Service -/

/-- **Exactly once, in order**: what passed is in one queue or was popped, what failed is nowhere, each queue is
served in the order of its sends, and the controller never pops from an empty queue. -/
theorem service_exact {cfg : Config} {root : NetworkNode} {s₀ : System} (hs₀ : Starts s₀) {p : P ControllerLoop}
    {S : Service} (hs : ServiceReachable cfg root s₀ (p, S)) :
    S.ledger.Exact S.sys.w ∧ PopsItem p S.sys.w := by
  have hstart : wp (serviceSem cfg) ServicePre (prvTSNControllerSleep cfg) (fun _ => LedgerInv) ⟨s₀, {}⟩ :=
    scheduling_service prvTSNControllerSleep_scheduling hs₀.ledger
  have hall := Loops.Reach.wp (fun l S h => prvTSNController_service root l h) hs hstart
  cases p with
  | ret l => exact ⟨(hall S .refl).exact, fun q t k hk => by cases hk⟩
  | call o k =>
      have hpre : ServicePre o S := hall.pre_call
      refine ⟨hpre.1.exact, fun q t k' hk => ?_⟩
      cases hk
      exact hpre.2 q t rfl

/-- A packet is inserted by the name of its queue, and popped. -/
theorem service_exact_once : ∃ p S, ServiceReachable {} fifoRoot dynSystem (p, S) ∧
    S.ledger.returned 0 = some true ∧ S.ledger.popped 0 = [txItem] ∧ Once (S.ledger.count 0) := by
  have h₀ : ServiceReachable {} fifoRoot dynSystem (prvTSNController {} fifoRoot .outer, ⟨dynSystem, {}⟩) := .refl
  have h₁ := h₀.task (.start (t := 0) (b := true) rfl (Or.inr ⟨[], 50, rfl⟩ : Inserts {} txItem _))
  have h₂ := (h₁.task (.call (t := 0) rfl rfl rfl)).task (.call (t := 0) rfl rfl rfl)
  have h₃ := h₂.task (.call (t := 0) rfl rfl rfl)
  have h₄ := (((h₃.call rfl).call rfl).call rfl).loop
  have h₅ := (h₄.call rfl).call rfl
  exact ⟨_, _, h₅, rfl, rfl, (service_exact dynSystem_starts.toStarts h₅).1.passed 0 rfl⟩

/-- **Strict priority**: where every shaper that is eligible has something in its queue, a round selects the queue of
the first leaf that is not empty and eligible, and none only if there is no such leaf, exactly when the scheduler of
that leaf can charge what is at the head of its queue. -/
theorem schedule_first_leaf_iff {cfg : Config} {root : NetworkNode} (hroot : root.WellFormed) {w : World}
    (hbacklog : ∀ l ∈ root.leaves, l.Backlogged w) :
    SelectsFirst cfg root w ↔ ∀ l, firstLeaf w root.leaves = some l → l.Charges w := by
  have hselects : Selects cfg (pxNetworkSchedulerCall cfg root) root.leaves w :=
    pxNetworkSchedulerCall_selects root hroot hbacklog
  rw [Selects] at hselects
  rw [SelectsFirst, xNetworkQueueSchedule_eq hroot]
  cases hfirst : firstLeaf w root.leaves with
  | none =>
      rw [hfirst] at hselects
      obtain ⟨w', hrun, -⟩ := hselects
      have hnone : firstQueue w root.leaves = none := by rw [firstQueue, hfirst]; rfl
      refine iff_of_true ⟨none, w', hrun, hnone.symm, iff_of_true rfl (firstQueue_eq_none.mp hnone)⟩ fun l hl => ?_
      exact absurd hl.symm (Option.some_ne_none l)
  | some l =>
      rw [hfirst] at hselects
      have hsome : firstQueue w root.leaves = some l.pxQueue := by rw [firstQueue, hfirst]; rfl
      constructor
      · rintro ⟨r, w', hrun, -⟩ l' ⟨⟩
        by_contra hno
        obtain ⟨e, w'', herror⟩ := hselects.2 hno
        cases hrun.symm.trans herror
      · intro hcharges
        obtain ⟨w', hrun⟩ := hselects.1 (hcharges l rfl)
        refine ⟨some l.pxQueue, w', hrun, hsome.symm, ?_⟩
        rw [← hsome]
        exact firstQueue_eq_none

/-- `cbsRoot` before `fifoRoot`. -/
def mixedRoot : NetworkNode := .mk 2 { fnSelect := .prvPrioritySelect } none [cbsRoot, .mk 1 {} (some fastQueue) [.null]]

theorem mixedRoot_wellFormed : mixedRoot.WellFormed := ⟨rfl, rfl, by decide, trivial, trivial, trivial⟩

/-- A packet in every queue, and the activations at `n`. -/
def mixedWorld (n : Nat) : World := { bootSystem.w with queues := fun _ => [txItem], uxNextActivation := fun _ => n }

/-- The queue of the shaper is selected when it is eligible and can charge the packet, and the one beside it when it is
not eligible. -/
theorem schedule_first_leaf_next :
    (∃ r w', (exec {} (xNetworkQueueSchedule {} mixedRoot)).run (mixedWorld 0) = .ok r w' ∧ r.map (·.xQueue) = some 0) ∧
    ∃ r w', (exec {} (xNetworkQueueSchedule {} mixedRoot)).run (mixedWorld 5) = .ok r w' ∧ r.map (·.xQueue) = some 1 := by
  have hbacklog : ∀ n, ∀ l ∈ mixedRoot.leaves, l.Backlogged (mixedWorld n) := fun _ _ _ _ _ => rfl
  have hshaper : firstLeaf (mixedWorld 0) mixedRoot.leaves = some ⟨some ⟨0, 800000, 0⟩, frameQueue⟩ := rfl
  have hbeside : firstLeaf (mixedWorld 5) mixedRoot.leaves = some ⟨none, fastQueue⟩ := rfl
  constructor
  · obtain ⟨r, w', hrun, hr, -⟩ := (@schedule_first_leaf_iff {} _ mixedRoot_wellFormed _ (hbacklog 0)).mpr <| by
      intro l hl c hc
      obtain rfl := Option.some.inj (hshaper.symm.trans hl)
      obtain rfl := Option.some.inj hc
      exact ⟨by decide, by simp [nextPacket, mixedWorld, txItem]⟩
    exact ⟨r, w', hrun, by rw [hr]; rfl⟩
  · obtain ⟨r, w', hrun, hr, -⟩ := (@schedule_first_leaf_iff {} _ mixedRoot_wellFormed _ (hbacklog 5)).mpr <| by
      intro l hl c hc
      obtain rfl := Option.some.inj (hbeside.symm.trans hl)
      cases hc
    exact ⟨r, w', hrun, by rw [hr]; rfl⟩

/-- `cbsRoot` without bandwidth. -/
def stoppedRoot : NetworkNode := .mk 1 { fnReady := .prvCBSReady ⟨0, 0, 0⟩ } (some frameQueue) [.null]

/-- An eligible shaper whose queue holds a packet divides by its bandwidth, which is 0; one whose queue holds an item
without a packet looks for its length. -/
theorem schedule_not_first :
    (stoppedRoot.WellFormed ∧ (∀ l ∈ stoppedRoot.leaves, l.Backlogged { bootSystem.w with queues := fun _ => [txItem] }) ∧
      ¬ SelectsFirst {} stoppedRoot { bootSystem.w with queues := fun _ => [txItem] }) ∧
    cbsRoot.WellFormed ∧
      (∀ l ∈ cbsRoot.leaves, l.Backlogged { bootSystem.w with queues := fun _ => [{ txItem with pxBuf := none }] }) ∧
      ¬ SelectsFirst {} cbsRoot { bootSystem.w with queues := fun _ => [{ txItem with pxBuf := none }] } := by
  refine ⟨⟨trivial, fun l _ _ _ => rfl, ?_⟩, trivial, fun l _ _ _ => rfl, ?_⟩
  · rintro ⟨r, w', hrun, -⟩
    exact nomatch hrun
  · rintro ⟨r, w', hrun, -⟩
    exact nomatch hrun

/-- **Safety of a round**: a round is safe and charges only what it serves exactly when the stop that it ends at, if it
is a shaper, has a packet. -/
theorem round_safe_iff {cfg : Config} {root : NetworkNode} (hroot : root.WellBuilt) (w : World) :
    SafeRound cfg root w ↔ ∀ s, firstStop w root.stops = some s → ¬ s.Misses w := by
  refine ⟨fun hsafe s hs hmiss => ?_, safeRound_of_hits hroot⟩
  obtain ⟨w', hsame, hrun⟩ : EndsAt cfg (pxNetworkSchedulerCall cfg root) root.stops w :=
    pxNetworkSchedulerCall_endsAt root hroot.linked w
  rw [SafeRound, hrun, hs] at hsafe
  simp only [Stop.ends_misses hsame hmiss] at hsafe
  exact hsafe.1 rfl

theorem cbsRoot_wellBuilt : cbsRoot.WellBuilt := ⟨trivial, by simp [cbsRoot, NetworkNode.shapers, ReadyQueueFunction.cbs]⟩

/-- A shaper with a packet is charged for it. -/
theorem round_safe_once : SafeRound {} cbsRoot { bootSystem.w with queues := fun _ => [txItem] } := by
  refine (round_safe_iff cbsRoot_wellBuilt _).mpr fun s hs => ?_
  have hstop : firstStop { bootSystem.w with queues := fun _ => [txItem] } cbsRoot.stops =
      some ⟨some ⟨0, 800000, 0⟩, some frameQueue⟩ := rfl
  cases hstop.symm.trans hs
  simp [Stop.Misses, nextPacket, txItem]

/-- `fifoRoot` as the child of a shaper. -/
def shapedRoot : NetworkNode := .mk 1 { fnReady := .prvCBSReady ⟨0, 800000, 0⟩ } none [fifoRoot]

/-- A shaper that is eligible while its queue is empty looks for the length of a packet that is not there; with a child
it looks for the packet in a queue that is not there, even if the queue of the child holds one. -/
theorem round_misses : (cbsRoot.WellBuilt ∧ ¬ SafeRound {} cbsRoot bootSystem.w) ∧
    shapedRoot.WellBuilt ∧ ¬ SafeRound {} shapedRoot { bootSystem.w with queues := fun _ => [txItem] } := by
  refine ⟨⟨cbsRoot_wellBuilt, fun hsafe => hsafe.1 rfl⟩, ⟨⟨rfl, fun _ => rfl, trivial, trivial⟩, ?_⟩,
    fun hsafe => hsafe.1 rfl⟩
  simp [shapedRoot, fifoRoot, NetworkNode.shapers, shapersList, ReadyQueueFunction.cbs]

/-! ## The wrap of the tick count -/

/-- **Shifted ticks**: a run in which no comparison is separated has a shifted run with the same results and the same
ready decisions. -/
theorem rounds_shifted {cfg : Config} {root : NetworkNode} {calls : List RoundCall} {c : Nat} (hc : c < 2 ^ 32)
    {w w' : World} (hw : TicksOk w) {xs : List Others} {es : List Event} {rs : List RoundResult}
    (hrun : Runs (machine cfg) (prvRounds cfg root calls) w xs es rs w') (hsep : NoneSeparated cfg root c es) :
    Runs (machine cfg) (prvRounds cfg root calls) (shiftTicks c w) xs (es.map (shiftEvent c)) rs (shiftTicks c w') ∧
      readyDecisions none (es.map (shiftEvent c)) = readyDecisions none es := by
  obtain ⟨hshifted, hanswers⟩ :=
    (prvRounds_mirrors hc calls rfl).runs (fun o x w r w' => machine_step o x w r w') hw hrun hsep
  exact ⟨hshifted, readyDecisions_shiftEvent hc es {} (by simp) hanswers hsep⟩

/-- `bootSystem` at tick 100, with a frame in the queue and an activation at 50. -/
def lateWorld : World :=
  { bootSystem.w with
    xTickCount := 100
    uxNextActivation := fun _ => 50
    uxNextWakeup := 60
    queues := fun _ => [txItem] }

/-- No tick passes and no other task does anything. -/
def idle : Others := ⟨0, lateWorld.queues, lateWorld.bufs, lateWorld.mem⟩

theorem lateWorld_ticksOk : TicksOk lateWorld := ⟨fun _ => Nat.lt_of_lt_of_le (by decide : 50 < 51) (by decide), by decide⟩

/-- A node asks for its sleep and then for a queue. -/
def sleepAndSchedule (cfg : Config) : P (List RoundResult) :=
  prvRounds cfg cbsRoot [.uxNetworkQueueGetTicksUntilWakeup, .xNetworkQueueSchedule]

theorem rounds_shifted_early : ∃ (es : List Event) (w' : World),
    Runs (machine {}) (sleepAndSchedule {}) (shiftTicks 1000 lateWorld) (List.replicate 8 idle) (es.map (shiftEvent 1000))
      [.ticks portMaxDelay, .queue (some frameQueue)] w' := by
  have hrun : ∃ es w', Runs (machine {}) (sleepAndSchedule {}) lateWorld (List.replicate 8 idle) es
      [.ticks portMaxDelay, .queue (some frameQueue)] w' ∧ NoneSeparated {} cbsRoot 1000 es := by
    refine ⟨_, _, .call rfl (.call rfl (.call rfl (.call rfl (.call rfl (.call rfl (.call rfl (.call rfl (.ret _ _)))))))), ?_⟩
    have hnow {y : Nat} (hy : y + 1000 < 2 ^ 32) : ∀ x ∈ some 100, SameSide 1000 x y := by
      rintro x ⟨⟩
      exact Or.inr (iff_of_true (by decide) hy)
    have hactivation : ∀ x ∈ some 100, SameSide 1000 50 x ∧ (50 ≤ x → ∀ s ∈ cbsRoot.cbsNodes, s.id = 0 →
        SameSide 1000 (wrap32 (50 + uxCBSMaxDelay {} s)) x) := by
      rintro x ⟨⟩
      refine ⟨Or.inr (by decide), fun _ s hs _ => ?_⟩
      obtain rfl := List.mem_singleton.mp hs
      exact Or.inr (by decide)
    exact ⟨trivial, ⟨nofun, fun _ => hnow (by decide)⟩, trivial, hactivation, trivial, trivial, trivial, trivial, trivial⟩
  obtain ⟨es, w', hrun, hsep⟩ := hrun
  exact ⟨es, _, (rounds_shifted (by decide) lateWorld_ticksOk hrun hsep).1⟩

/-- All ticks are within 51 of each other, but 75 ticks before the wrap the shaper that was ready stalls. -/
theorem rounds_stall :
    (∃ es w', Runs (machine {}) (sleepAndSchedule {}) lateWorld (List.replicate 8 idle) es
      [.ticks portMaxDelay, .queue (some frameQueue)] w' ∧ ∀ x ∈ tickValues es, 50 ≤ x ∧ x ≤ 101) ∧
    ∀ n es rs w', Runs (machine {}) (sleepAndSchedule {}) (shiftTicks (2 ^ 32 - 75) lateWorld)
      (List.replicate n idle) es rs w' → rs = [.ticks (2 ^ 32 - 40), .queue none] := by
  refine ⟨⟨_, _, .call rfl (.call rfl (.call rfl (.call rfl (.call rfl (.call rfl (.call rfl (.call rfl (.ret _ _)))))))),
    by decide⟩, fun n es rs w' h => ?_⟩
  have hstall : ∃ es w', Runs (machine {}) (sleepAndSchedule {}) (shiftTicks (2 ^ 32 - 75) lateWorld)
      (List.replicate 7 idle) es [.ticks (2 ^ 32 - 40), .queue none] w' :=
    ⟨_, _, .call rfl (.call rfl (.call rfl (.call rfl (.call rfl (.call rfl (.call rfl (.ret _ _)))))))⟩
  obtain ⟨es', w'', h'⟩ := hstall
  have hidle (m : Nat) (hm : m ≤ max n 7) : List.replicate m idle <+: List.replicate (max n 7) idle := by
    simp only [List.prefix_replicate_iff, List.length_replicate, and_true]
    exact hm
  exact h.unique machine_step_unique (hidle n (Nat.le_max_left n 7)) (hidle 7 (Nat.le_max_right n 7)) h'

/-! ## The choice of a queue -/

/-- **Selection by filter**: the item goes to the back of the chosen queue, the insertion fails exactly when there is
none or it is full, and no other queue changes. -/
theorem insert_by_filter {cfg : Config} {added : List NetworkQueue} {w₀ w₁ w : World}
    (hempty : w₀.pxNetworkQueueList = []) (hadd : (prvAddQueues added).run w₀ = .ok () w₁)
    (hlist : w.pxNetworkQueueList = w₁.pxNetworkQueueList) (pxItem : NetworkQueueItem) (uxTimeout : Nat) :
    ∃ r w', (exec cfg (xNetworkQueueInsertPacketByFilter cfg pxItem uxTimeout)).run w = .ok r w' ∧
      (r = false ↔ ∀ q, Chosen pxItem (bufferOf w pxItem.pxBuf) added q →
        cfg.ipconfigEventQueueLength ≤ (w.queues q.xQueue).length) ∧
      (r = true → ∃ q, Chosen pxItem (bufferOf w pxItem.pxBuf) added q ∧
        w'.queues = Function.update w.queues q.xQueue (w.queues q.xQueue ++ [pxItem])) ∧
      (r = false → w'.queues = w.queues) := by
  have hqs : w.pxNetworkQueueList = added := by
    rw [run_prvAddQueues, hempty] at hadd
    cases hadd
    exact hlist
  rw [exec_insert, hqs]
  cases hq : prvChooseQueue pxItem (bufferOf w pxItem.pxBuf) none added with
  | none =>
      refine ⟨false, w, rfl, iff_of_true rfl fun q h => ?_, Bool.noConfusion, fun _ => rfl⟩
      rw [prvChooseQueue_iff.mpr h] at hq
      cases hq
  | some q =>
      have hchosen : Chosen pxItem (bufferOf w pxItem.pxBuf) added q := prvChooseQueue_iff.mp hq
      have hunique : ∀ q', Chosen pxItem (bufferOf w pxItem.pxBuf) added q' → q' = q := fun q' h => by
        rw [prvChooseQueue_iff.mpr h] at hq
        exact Option.some.inj hq
      obtain ⟨w', hrun, hpush⟩ := exec_xNetworkQueuePush cfg w pxItem q uxTimeout
      refine ⟨_, w', hrun, ?_, fun hr => ⟨q, hchosen, ?_⟩, fun hr => ?_⟩
      · rw [decide_eq_false_iff_not, Nat.not_lt]
        constructor
        · rintro hfull q' h
          rwa [hunique q' h]
        · exact fun h => h q hchosen
      · rw [if_pos (decide_eq_true_iff.mp hr)] at hpush
        rw [hpush.eq]
      · rw [if_neg (decide_eq_false_iff_not.mp hr)] at hpush
        rw [hpush]

/-- Of two queues with the same IPV the first takes the item. -/
theorem insert_by_filter_first :
    ∃ w', (exec {} (xNetworkQueueInsertPacketByFilter {} txItem 0)).run
        { bootSystem.w with pxNetworkQueueList := [slowQueue, fastQueue, { fastQueue with xQueue := 2 }] } = .ok true w' ∧
      w'.queues = Function.update bootSystem.w.queues 1 [txItem] := by
  obtain ⟨r, w', hrun, -, htrue, -⟩ := @insert_by_filter {} [slowQueue, fastQueue, { fastQueue with xQueue := 2 }]
    bootSystem.w { bootSystem.w with pxNetworkQueueList := [slowQueue, fastQueue, { fastQueue with xQueue := 2 }] }
    { bootSystem.w with pxNetworkQueueList := [slowQueue, fastQueue, { fastQueue with xQueue := 2 }] }
    rfl (run_prvAddQueues _ _) rfl txItem 0
  cases hrun
  obtain ⟨q, hq, hqueues⟩ := htrue rfl
  have hfast : some fastQueue = some q := (prvChooseQueue_iff.mpr hq)
  cases hfast
  exact ⟨_, rfl, hqueues⟩

end FreeRtosTsn.Scheduler
