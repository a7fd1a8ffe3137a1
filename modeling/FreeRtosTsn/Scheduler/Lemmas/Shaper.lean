import FreeRtosTsn.Scheduler.Shaper

/-!
# A shaper is paced

The runs of a credit based node are those of a regulator whose jobs cost the ticks that packets are charged for, and
whose credit is the ticks that the credit is worth.
-/

namespace FreeRtosTsn.Scheduler

open Lib Kernel

variable {cfg : Config} {c : SchedulerCBS} {pxQueue : NetworkQueue}

/-! ## One round -/

/-- What a round that serves found, and what it leaves. -/
structure RoundServes (cfg : Config) (c : SchedulerCBS) (pxQueue : NetworkQueue) (w w' : World) : Prop where
  ready : w.uxNextActivation c.id ≤ wrap32 w.xTickCount
  head : ∃ xItem is b, w.queues pxQueue.xQueue = xItem :: is ∧ xItem.pxBuf = some b ∧
    w' = charged cfg c b w

/-- A round serves the queue and charges its head, or finds the node not ready and leaves the shaper alone. -/
theorem exec_cbsLeaf {w w' : World} {r : Option NetworkQueue}
    (h : (exec cfg (pxNetworkSchedulerCall cfg (cbsLeaf c pxQueue))).run w = .ok r w') :
    (r = some pxQueue ∧ RoundServes cfg c pxQueue w w') ∨
      (r = none ∧ w'.uxNextActivation = w.uxNextActivation ∧ w'.xTickCount = w.xTickCount) := by
  simp only [cbsLeaf, pxNetworkSchedulerCall, netschedCallReadyFromNode, exec_bind] at h
  cases hready : (exec cfg (prvCBSReady cfg c (some pxQueue))).run w with
  | error e w₁ =>
      rw [hready] at h
      cases h
  | ok bReady w₁ =>
      rw [hready] at h
      rcases prvCBSReady_inv hready with ⟨rfl, hle, -, b, hb, rfl⟩ | ⟨rfl, -, rfl⟩
      · obtain ⟨q, xItem, is, hq, hhead, hbuf⟩ := nextPacket_eq_some hb
        cases hq
        have hcharged : (charged cfg c b w).queues pxQueue.xQueue = xItem :: is := hhead
        simp [prvCallTerminal_run, hcharged] at h
        obtain ⟨rfl, rfl⟩ := h
        exact .inl ⟨rfl, hle, xItem, is, b, hhead, hbuf, rfl⟩
      · cases h
        exact .inr ⟨rfl, rfl, rfl⟩

/-- The charge moves the activation on as a regulator does, as long as no sum wraps. -/
theorem uxCBSCharge_of_fits {uxNextActivation uxNow uxMaxDelay uxDelay : Nat} (hnow : uxNow < 2 ^ 32)
    (hmax : uxNextActivation + uxMaxDelay < 2 ^ 32)
    (hdelay : max uxNextActivation (uxNow - uxMaxDelay) + uxDelay < 2 ^ 32) :
    uxCBSCharge uxNextActivation uxNow uxMaxDelay uxDelay =
      max uxNextActivation (uxNow - uxMaxDelay) + uxDelay := by
  rw [uxCBSCharge, wrap32_of_lt hmax]
  by_cases hclamp : uxNextActivation + uxMaxDelay < uxNow
  · rw [if_pos hclamp, sub32_of_le (by omega) (by omega), wrap32_of_lt (by omega)]
    omega
  · rw [if_neg hclamp, wrap32_of_lt (by omega)]
    omega

theorem uxCBSCharge_eq {uxNextActivation uxNow uxMaxDelay uxDelay : Nat} (hle : uxNextActivation ≤ uxNow)
    (hmax : uxNow + uxMaxDelay < 2 ^ 32) (hdelay : uxNow + uxDelay < 2 ^ 32) :
    uxCBSCharge uxNextActivation uxNow uxMaxDelay uxDelay =
      max uxNextActivation (uxNow - uxMaxDelay) + uxDelay :=
  uxCBSCharge_of_fits (by omega) (by omega) (by omega)

/-! ## Bits and ticks -/

/-- The ticks that bits are charged for do not exceed their time on the wire. -/
theorem pdMsToTicks_mul_le (cfg : Config) (bits uxBandwidth : Nat) :
    pdMsToTicks cfg (wrap32 (bits * 1000) / uxBandwidth) * uxBandwidth ≤ bits * cfg.configTickRateHz := by
  have hms : wrap32 (bits * 1000) / uxBandwidth * uxBandwidth ≤ bits * 1000 :=
    Nat.le_trans (Nat.div_mul_le_self _ _) (wrap32_le _)
  rw [pdMsToTicks]
  generalize wrap32 (bits * 1000) / uxBandwidth = ms at hms ⊢
  have hticks : wrap32 (ms * cfg.configTickRateHz / 1000) * 1000 ≤ ms * cfg.configTickRateHz :=
    Nat.le_trans (Nat.mul_le_mul_right _ (wrap32_le _)) (Nat.div_mul_le_self _ _)
  generalize wrap32 (ms * cfg.configTickRateHz / 1000) = ticks at hticks ⊢
  refine Nat.le_of_mul_le_mul_right (c := 1000) ?_ (by decide)
  calc ticks * uxBandwidth * 1000 = ticks * 1000 * uxBandwidth := Nat.mul_right_comm _ _ _
    _ ≤ ms * cfg.configTickRateHz * uxBandwidth := Nat.mul_le_mul_right _ hticks
    _ = ms * uxBandwidth * cfg.configTickRateHz := Nat.mul_right_comm _ _ _
    _ ≤ bits * 1000 * cfg.configTickRateHz := Nat.mul_le_mul_right _ hms
    _ = bits * cfg.configTickRateHz * 1000 := Nat.mul_right_comm _ _ _

theorem uxCBSMaxDelay_mul_le (cfg : Config) (c : SchedulerCBS) :
    uxCBSMaxDelay cfg c * c.uxBandwidth ≤ c.uxMaxCredit * cfg.configTickRateHz :=
  pdMsToTicks_mul_le cfg c.uxMaxCredit c.uxBandwidth

theorem uxCBSDelay_mul_le (cfg : Config) (c : SchedulerCBS) (p : Served) :
    uxCBSDelay cfg c p.xDataLength * c.uxBandwidth ≤ p.bits * cfg.configTickRateHz := by
  rw [Served.bits, Nat.mul_comm 8]
  exact pdMsToTicks_mul_le cfg (p.xDataLength * 8) c.uxBandwidth

theorem Served.NoWrap.ticks {p : Served} (h : p.NoWrap cfg c) (hB : 0 < c.uxBandwidth) :
    p.uxNow + uxCBSMaxDelay cfg c < 2 ^ 32 ∧ p.uxNow + uxCBSDelay cfg c p.xDataLength < 2 ^ 32 := by
  have hmax := (Nat.le_div_iff_mul_le hB).mpr (uxCBSMaxDelay_mul_le cfg c)
  have hdelay := (Nat.le_div_iff_mul_le hB).mpr (uxCBSDelay_mul_le cfg c p)
  obtain ⟨hm, hd⟩ := h
  omega

/-- A packet whose time on the wire is a whole number of milliseconds and ticks is charged for all its bits. -/
theorem Served.Exact.charged {p : Served} (h : p.Exact cfg c) (hwrap : p.NoWrap cfg c) (hB : 0 < c.uxBandwidth) :
    uxCBSDelay cfg c p.xDataLength * c.uxBandwidth = p.bits * cfg.configTickRateHz := by
  obtain ⟨hlt, ⟨ms, hms⟩, hticks⟩ := h
  have hlen : wrap32 (p.xDataLength * 8 * 1000) = c.uxBandwidth * ms := by
    rw [← hms, show p.xDataLength * 8 * 1000 = 1000 * p.bits by rw [Served.bits]; omega, wrap32_of_lt hlt]
  rw [hms, Nat.mul_div_cancel_left _ hB] at hticks
  obtain ⟨ticks, hticks⟩ := hticks
  -- The bits take exactly `ticks`.
  have hbits : p.bits * cfg.configTickRateHz = ticks * c.uxBandwidth := by
    refine Nat.eq_of_mul_eq_mul_left (show 0 < 1000 by decide) ?_
    calc 1000 * (p.bits * cfg.configTickRateHz) = 1000 * p.bits * cfg.configTickRateHz := (Nat.mul_assoc _ _ _).symm
      _ = c.uxBandwidth * ms * cfg.configTickRateHz := by rw [hms]
      _ = c.uxBandwidth * (1000 * ticks) := by rw [Nat.mul_assoc, hticks]
      _ = 1000 * (ticks * c.uxBandwidth) := by rw [Nat.mul_left_comm, Nat.mul_comm c.uxBandwidth]
  have hfits : ticks < 2 ^ 32 := by
    have hd := hwrap.2
    rw [hbits, Nat.mul_div_cancel _ hB] at hd
    omega
  rw [uxCBSDelay, pdMsToTicks, hlen, Nat.mul_div_cancel_left _ hB, hticks,
    Nat.mul_div_cancel_left _ (show 0 < 1000 by decide), wrap32_of_lt hfits, hbits]

/-! ## Runs -/

def Served.job (cfg : Config) (c : SchedulerCBS) (p : Served) : Job :=
  ⟨p.uxNow, uxCBSDelay cfg c p.xDataLength⟩

theorem Rounds.node_eq {node : NetworkNode} {w : World} {log : List Served}
    (h : Rounds cfg c pxQueue node w log) : node = cbsLeaf c pxQueue := by
  induction h with
  | create hc hl =>
      simp [pxNetworkNodeCreateCBS] at hc
      obtain ⟨rfl, -⟩ := hc
      cases hl
      rfl
  | other _ _ _ ih => exact ih
  | wait _ _ ih => exact ih
  | serve _ _ _ _ ih => exact ih

/-- The head of the queue is served when the activation has come. -/
theorem Rounds.serve_head {node : NetworkNode} {w : World} {log : List Served} {xItem : NetworkQueueItem}
    {is : List NetworkQueueItem} {b : BufId} (h : Rounds cfg c pxQueue node w log) (hB : c.uxBandwidth ≠ 0)
    (hready : w.uxNextActivation c.id ≤ wrap32 w.xTickCount) (hq : w.queues pxQueue.xQueue = xItem :: is)
    (hb : xItem.pxBuf = some b) :
    ∃ w', Rounds cfg c pxQueue node w' (log ++ [⟨w.xTickCount, (w.bufs b).xDataLength⟩]) ∧
      w'.uxNextActivation c.id = uxCBSCharge (w.uxNextActivation c.id) (wrap32 w.xTickCount) (uxCBSMaxDelay cfg c)
        (uxCBSDelay cfg c (w.bufs b).xDataLength) ∧
      w'.queues pxQueue.xQueue = is ∧ w'.xTickCount = w.xTickCount ∧ w'.bufs = w.bufs := by
  have hround : (exec cfg (pxNetworkSchedulerCall cfg node)).run w = .ok (some pxQueue) (charged cfg c b w) := by
    rw [h.node_eq]
    simp [cbsLeaf, pxNetworkSchedulerCall, netschedCallReadyFromNode, prvCBSReady, pxPeekNextPacket, deref,
      prvCallTerminal, xNetworkQueueIsEmpty, hready, hq, hb, hB, charged]
  have hpop : (exec cfg (xNetworkQueuePop pxQueue 0)).run (charged cfg c b w) =
      .ok (some xItem) { charged cfg c b w with
        queues := Function.update w.queues pxQueue.xQueue is } := by
    simp [xNetworkQueuePop, charged, hq]
  have hserve := h.serve hround hpop hb
  exact ⟨_, hserve, by simp [charged], by simp, rfl, rfl⟩

/-- **Refinement**: a run of the shaper is a run of the regulator with the activation as its time of eligibility. -/
theorem Rounds.paced {node : NetworkNode} {w : World} {log : List Served} (h : Rounds cfg c pxQueue node w log)
    (hB : 0 < c.uxBandwidth) (hwrap : ∀ p ∈ log, p.NoWrap cfg c) :
    ∃ last ≤ w.xTickCount, Paced (uxCBSMaxDelay cfg c) (w.uxNextActivation c.id) last (log.map (Served.job cfg c)) := by
  induction h with
  | create hc hl => exact ⟨0, Nat.zero_le _, .idle⟩
  | other _ ha ht ih =>
      obtain ⟨last, hlast, hp⟩ := ih hwrap
      exact ⟨last, Nat.le_trans hlast ht, ha ▸ hp⟩
  | wait h hr ih =>
      obtain ⟨last, hlast, hp⟩ := ih hwrap
      rw [h.node_eq] at hr
      rcases exec_cbsLeaf hr with ⟨hn, -⟩ | ⟨-, ha, ht⟩
      · cases hn
      · exact ⟨last, ht ▸ hlast, ha ▸ hp⟩
  | @serve w w₁ w₂ node log q xItem b h hr hpop hb ih =>
      obtain ⟨last, hlast, hp⟩ := ih fun p hp => hwrap p (List.mem_append_left _ hp)
      have hnow := (hwrap ⟨w.xTickCount, (w₂.bufs b).xDataLength⟩ (by simp)).ticks hB
      rw [h.node_eq] at hr
      rcases exec_cbsLeaf hr with ⟨hq, hready, xItem', is, b', hhead, hb', rfl⟩ | ⟨hn, -⟩
      · cases hq
        -- The item that is popped is the one that was charged for.
        simp [xNetworkQueuePop, charged, hhead] at hpop
        obtain ⟨rfl, rfl⟩ := hpop
        obtain rfl : b' = b := by simpa [hb'] using hb
        have ht : w.xTickCount < 2 ^ 32 := Nat.lt_of_le_of_lt (Nat.le_add_right _ _) hnow.1
        rw [wrap32_of_lt ht] at hready ⊢
        refine ⟨w.xTickCount, Nat.le_refl _, ?_⟩
        simp only [Function.update_self, List.map_append, List.map_cons, List.map_nil, Served.job]
        rw [uxCBSCharge_eq hready hnow.1 hnow.2]
        exact hp.run hlast hready
      · cases hn

/-- **Refinement**: the answers of the ready function are those of the regulator that is created with it. -/
theorem ReadyRun.polled {t₀ : Nat} {w : World} {polls : List Poll} (h : ReadyRun cfg c pxQueue t₀ w polls) :
    ∃ last ≤ w.xTickCount, Polled (uxCBSMaxDelay cfg c) t₀ (w.uxNextActivation c.id) last polls := by
  induction h with
  | create ht hlt hc =>
      simp only [pxNetworkNodeCreateCBS, call_eq, Prog.call_bind, Prog.ret_bind, exec_call, effect_xTaskGetTickCount,
        effect_storeNextActivation, Prog.pure_eq, exec_ret] at hc
      cases hc
      refine ⟨_, Nat.le_of_eq ht.symm, ?_⟩
      simp only [Function.update_self, ht, wrap32_of_lt hlt]
      exact .create
  | other _ ha ht ih =>
      obtain ⟨last, hlast, hp⟩ := ih
      exact ⟨last, hlast.trans ht, ha ▸ hp⟩
  | @ready w w' polls b _ hb hfits hr ih =>
      obtain ⟨last, hlast, hp⟩ := ih
      rcases prvCBSReady_inv hr with ⟨-, hle, -, b', hb', rfl⟩ | ⟨hfalse, -⟩
      · obtain rfl : b = b' := Option.some.inj (hb.symm.trans hb')
        rw [wrap32_of_lt hfits.tick] at hle
        refine ⟨w.xTickCount, Nat.le_refl _, ?_⟩
        simp only [charged, Function.update_self, wrap32_of_lt hfits.tick,
          uxCBSCharge_of_fits hfits.tick hfits.credit hfits.charge]
        exact hp.start hlast hle
      · cases hfalse
  | @notReady w w' polls _ ht hr ih =>
      obtain ⟨last, hlast, hp⟩ := ih
      rcases prvCBSReady_inv hr with ⟨htrue, -⟩ | ⟨-, hlt, rfl⟩
      · cases htrue
      · rw [wrap32_of_lt ht] at hlt
        exact ⟨w.xTickCount, Nat.le_refl _, hp.refuse hlast hlt⟩

/-! ## Windows -/

theorem totalCost_mul {f : Served → Job} {R B : Nat} (ps : List Served)
    (h : ∀ p ∈ ps, (f p).cost * B = p.bits * R) : totalCost (ps.map f) * B = (ps.map Served.bits).sum * R := by
  induction ps with
  | nil => simp
  | cons p ps ih =>
      have hp := h p (List.mem_cons_self ..)
      have hps := ih fun q hq => h q (List.mem_cons_of_mem _ hq)
      simp only [totalCost, List.map_cons, List.sum_cons, Nat.add_mul] at hps ⊢
      rw [hp, hps]

theorem within_map_job (t₁ t₂ : Nat) (log : List Served) :
    within t₁ t₂ (log.map (Served.job cfg c)) =
      (log.filter fun p => t₁ ≤ p.uxNow ∧ p.uxNow ≤ t₂).map (Served.job cfg c) := by
  rw [within, List.filter_map]
  rfl

end FreeRtosTsn.Scheduler
