import FreeRtosTsn.Scheduler.Wrap

/-!
# Shifted ticks

A comparison survives the shift exactly when its two sides are on the same side of the end of the tick count, and sums
and differences are shifted with their arguments. The code does nothing else with ticks.
-/

namespace FreeRtosTsn.Scheduler

open Lib Kernel

/-! ## Arithmetic -/

section Arithmetic

variable {c x y : Nat}

theorem SameSide.symm (h : SameSide c x y) : SameSide c y x := by
  rcases h with h | h
  · exact Or.inl h.symm
  · exact Or.inr h.symm

/-- A comparison has the same outcome exactly when the two values are on the same side. -/
theorem shiftTick_le_iff (hc : c < 2 ^ 32) (hx : x < 2 ^ 32) (hy : y < 2 ^ 32) :
    (shiftTick c x ≤ shiftTick c y ↔ x ≤ y) ↔ SameSide c x y := by
  simp only [shiftTick, wrap32, SameSide]
  omega

theorem SameSide.le_iff (h : SameSide c x y) (hc : c < 2 ^ 32) (hx : x < 2 ^ 32) (hy : y < 2 ^ 32) :
    shiftTick c x ≤ shiftTick c y ↔ x ≤ y := (shiftTick_le_iff hc hx hy).mpr h

theorem SameSide.lt_iff (h : SameSide c x y) (hc : c < 2 ^ 32) (hx : x < 2 ^ 32) (hy : y < 2 ^ 32) :
    shiftTick c x < shiftTick c y ↔ x < y := by
  rw [← not_le, ← not_le, h.symm.le_iff hc hy hx]

theorem shiftTick_wrap32 (c x : Nat) : shiftTick c (wrap32 x) = wrap32 (x + c) := by
  simp only [shiftTick, wrap32]
  omega

theorem wrap32_shiftTick_add (c x n : Nat) : wrap32 (shiftTick c x + n) = shiftTick c (wrap32 (x + n)) := by
  simp only [shiftTick, wrap32]
  omega

theorem sub32_shiftTick (c x n : Nat) : sub32 (shiftTick c x) n = shiftTick c (sub32 x n) := by
  simp only [shiftTick, sub32, wrap32]
  omega

theorem sub32_shiftTick_shiftTick (c x y : Nat) : sub32 (shiftTick c x) (shiftTick c y) = sub32 x y := by
  simp only [shiftTick, sub32, wrap32]
  omega

theorem uxCBSCharge_shiftTick {uxMaxDelay : Nat} (uxDelay : Nat) (hc : c < 2 ^ 32) (hy : y < 2 ^ 32)
    (h : SameSide c (wrap32 (x + uxMaxDelay)) y) :
    uxCBSCharge (shiftTick c x) (shiftTick c y) uxMaxDelay uxDelay =
      shiftTick c (uxCBSCharge x y uxMaxDelay uxDelay) := by
  have hclamp := h.lt_iff hc (wrap32_lt _) hy
  rw [uxCBSCharge, uxCBSCharge, wrap32_shiftTick_add]
  by_cases hlt : wrap32 (x + uxMaxDelay) < y
  · rw [if_pos (hclamp.mpr hlt), if_pos hlt, sub32_shiftTick, wrap32_shiftTick_add]
  · rw [if_neg (mt hclamp.mp hlt), if_neg hlt, wrap32_shiftTick_add]

end Arithmetic

/-! ## The state -/

theorem act_shiftTicks (c : Nat) (x : Others) (w : World) : x.act (shiftTicks c w) = shiftTicks c (x.act w) := by
  simp only [Others.act, shiftTicks, Nat.add_right_comm]

theorem shiftTicks_storeNextActivation (c : Nat) (w : World) (id : CbsId) (x : Nat) :
    ({ shiftTicks c w with
      uxNextActivation := Function.update (shiftTicks c w).uxNextActivation id (shiftTick c x) } : World) =
      shiftTicks c { w with uxNextActivation := Function.update w.uxNextActivation id x } := by
  have hup : Function.update (fun i => shiftTick c (w.uxNextActivation i)) id (shiftTick c x) =
      fun i => shiftTick c (Function.update w.uxNextActivation id x i) := by
    funext i
    by_cases hi : i = id
    · simp [hi]
    · simp [hi]
  simp only [shiftTicks, hup]

/-- A call has the shifted effect in the shifted state. -/
theorem effect_shiftTicks {cfg : Config} (c : Nat) {o : Call} {w w' : World} {r : Call.Res o}
    (h : effect cfg o w = .ok r w') : effect cfg (o.shift c) (shiftTicks c w) = .ok (Call.shiftRes c o r) (shiftTicks c w') := by
  cases o with
  | xTaskGetTickCount =>
      cases h
      exact congrArg (EStateM.Result.ok · _) (shiftTick_wrap32 c w.xTickCount).symm
  | xQueueSendToBack q pxItem uxTimeout =>
      rw [effect_xQueueSendToBack] at h
      simp only [Call.shift, effect_xQueueSendToBack]
      split at h
      · rename_i hroom
        cases h
        exact if_pos hroom
      · rename_i hroom
        cases h
        exact if_neg hroom
  | storeNextActivation id x =>
      cases h
      exact congrArg (EStateM.Result.ok _) (shiftTicks_storeNextActivation c w id x)
  | fault f => cases h
  | _ =>
      cases h
      rfl

theorem machine_step_unique {cfg : Config} (o : Call) (w : World) (r : Call.Res o) (w' : World) (r' : Call.Res o)
    (w'' : World) (h : (machine cfg).step o w r w') (h' : (machine cfg).step o w r' w'') : r = r' ∧ w' = w'' :=
  EStateM.Result.ok.inj (h.symm.trans h')

theorem effect_ticksOk {cfg : Config} {o : Call} {w w' : World} {r : Call.Res o} (hw : TicksOk w)
    (ho : Call.StoresTick o) (h : effect cfg o w = .ok r w') : TicksOk w' ∧ Call.AnswersTick ⟨o, r⟩ := by
  cases o with
  | xTaskGetTickCount =>
      cases h
      exact ⟨hw, wrap32_lt _⟩
  | loadNextActivation id =>
      cases h
      exact ⟨hw, hw.uxNextActivation id⟩
  | loadNextWakeup =>
      cases h
      exact ⟨hw, hw.uxNextWakeup⟩
  | storeNextActivation id x =>
      cases h
      have hup : ∀ i, Function.update w.uxNextActivation id x i < 2 ^ 32 := by
        intro i
        by_cases hi : i = id
        · rw [hi, Function.update_self]
          exact ho
        · rw [Function.update_of_ne hi]
          exact hw.uxNextActivation i
      exact ⟨⟨hup, hw.uxNextWakeup⟩, trivial⟩
  | storeNextWakeup x =>
      cases h
      exact ⟨⟨hw.uxNextActivation, ho⟩, trivial⟩
  | xQueueSendToBack q pxItem uxTimeout =>
      rw [effect_xQueueSendToBack] at h
      split at h <;> cases h <;> exact ⟨⟨hw.uxNextActivation, hw.uxNextWakeup⟩, trivial⟩
  | fault f => cases h
  | _ =>
      cases h
      exact ⟨⟨hw.uxNextActivation, hw.uxNextWakeup⟩, trivial⟩

theorem machine_step {cfg : Config} {c : Nat} (o : Call) (x : Others) (w : World) (r : Call.Res o) (w' : World)
    (hw : TicksOk w) (ho : Call.StoresTick o) (h : (machine cfg).step o ((machine cfg).act x w) r w') :
    TicksOk w' ∧ Call.AnswersTick ⟨o, r⟩ ∧
      (machine cfg).step (o.shift c) ((machine cfg).act x (shiftTicks c w)) (Call.shiftRes c o r) (shiftTicks c w') := by
  have hact : TicksOk ((machine cfg).act x w) := ⟨hw.uxNextActivation, hw.uxNextWakeup⟩
  obtain ⟨hok, hanswer⟩ := effect_ticksOk hact ho h
  have hshift := effect_shiftTicks c h
  rw [← show x.act (shiftTicks c w) = shiftTicks c ((machine cfg).act x w) from act_shiftTicks c x w] at hshift
  exact ⟨hok, hanswer, hshift⟩

/-! ## The code -/

section Code

variable {cfg : Config} {root : NetworkNode} {c : Nat}

variable {α : Type} {t : Sampled}

theorem mirrors_xTaskGetTickCount {k k' : Nat → P α}
    (hk : ∀ uxNow < 2 ^ 32,
      Mirrors (tickMirror cfg root c) { t with uxNow := some uxNow } (k uxNow) (k' (shiftTick c uxNow))) :
    Mirrors (tickMirror cfg root c) t (.call (σ := Calls) .xTaskGetTickCount k)
      (.call (σ := Calls) .xTaskGetTickCount k') :=
  ⟨trivial, k', rfl, fun uxNow hnow _ => hk uxNow hnow⟩

theorem mirrors_loadNextWakeup {k k' : Nat → P α}
    (hk : ∀ x < 2 ^ 32, (∀ uxTime ∈ t.uxTime, SameSide c uxTime x) →
      ((∀ uxTime ∈ t.uxTime, x ≤ uxTime) → ∀ uxNow ∈ t.uxNow, SameSide c uxNow x) →
      Mirrors (tickMirror cfg root c) { t with uxTime := none } (k x) (k' (shiftTick c x))) :
    Mirrors (tickMirror cfg root c) t (.call (σ := Calls) .loadNextWakeup k)
      (.call (σ := Calls) .loadNextWakeup k') :=
  ⟨trivial, k', rfl, fun x hx hasks => hk x hx hasks.1 hasks.2⟩

theorem mirrors_loadNextActivation {id : CbsId} {uxNow : Nat} (ht : t.uxNow = some uxNow) {k k' : Nat → P α}
    (hk : ∀ x < 2 ^ 32, SameSide c x uxNow →
      (x ≤ uxNow → ∀ s ∈ root.cbsNodes, s.id = id → SameSide c (wrap32 (x + uxCBSMaxDelay cfg s)) uxNow) →
      Mirrors (tickMirror cfg root c) { t with uxTime := if x ≤ uxNow then none else some x } (k x)
        (k' (shiftTick c x))) :
    Mirrors (tickMirror cfg root c) t (.call (σ := Calls) (.loadNextActivation id) k)
      (.call (σ := Calls) (.loadNextActivation id) k') := by
  refine ⟨trivial, k', rfl, fun x hx hasks => ?_⟩
  obtain ⟨hnow, hcredit⟩ := hasks uxNow ht
  have hnext := hk x hx hnow hcredit
  have heq : (tickMirror cfg root c).next t ⟨.loadNextActivation id, x⟩ =
      { t with uxTime := if x ≤ uxNow then none else some x } := by
    simp [tickMirror, Sampled.next, ht]
  rw [heq]
  exact hnext

theorem mirrors_storeNextActivation {id : CbsId} {x : Nat} (hx : x < 2 ^ 32) {k k' : Unit → P α}
    (hk : Mirrors (tickMirror cfg root c) t (k ()) (k' ())) :
    Mirrors (tickMirror cfg root c) t (.call (σ := Calls) (.storeNextActivation id x) k)
      (.call (σ := Calls) (.storeNextActivation id (shiftTick c x)) k') :=
  ⟨hx, k', rfl, fun _ _ _ => hk⟩

theorem mirrors_storeNextWakeup {x : Nat} (hx : x < 2 ^ 32) {k k' : Unit → P α}
    (hk : Mirrors (tickMirror cfg root c) t (k ()) (k' ())) :
    Mirrors (tickMirror cfg root c) t (.call (σ := Calls) (.storeNextWakeup x) k)
      (.call (σ := Calls) (.storeNextWakeup (shiftTick c x)) k') :=
  ⟨hx, k', rfl, fun _ _ _ => hk⟩

theorem mirrors_loadBuf {b : BufId} {k k' : NetworkBufferDescriptor × Mem → P α}
    (hk : ∀ d, Mirrors (tickMirror cfg root c) t (k d) (k' d)) :
    Mirrors (tickMirror cfg root c) t (.call (σ := Calls) (.loadBuf b) k) (.call (σ := Calls) (.loadBuf b) k') :=
  ⟨trivial, k', rfl, fun d _ _ => hk d⟩

theorem fault_mirrors (t : Sampled) (f : Fault) :
    Mirrors (tickMirror cfg root c) t (fault f : P α) (fault f) :=
  ⟨trivial, _, rfl, fun r => nomatch r⟩

theorem deref_mirrors {β : Type} (ht : t.uxTime = none) (p : Option β) :
    Mirrors (tickMirror cfg root c) t (deref p : P β) (deref p) := by
  cases p with
  | none => exact fault_mirrors t .null
  | some a => exact .ret ht a

theorem xNetworkQueueIsEmpty_mirrors (ht : t.uxTime = none) (pxQueue : NetworkQueue) :
    Mirrors (tickMirror cfg root c) t (xNetworkQueueIsEmpty pxQueue) (xNetworkQueueIsEmpty pxQueue) :=
  ⟨trivial, _, rfl, fun _ _ _ => .ret ht _⟩

theorem xNetworkQueuePop_mirrors (ht : t.uxTime = none) (pxQueue : NetworkQueue) (uxTimeout : Nat) :
    Mirrors (tickMirror cfg root c) t (xNetworkQueuePop pxQueue uxTimeout) (xNetworkQueuePop pxQueue uxTimeout) :=
  ⟨trivial, _, rfl, fun _ _ _ => .ret ht _⟩

theorem prvCallTerminal_mirrors (ht : t.uxTime = none) (pxQueue : NetworkQueue) :
    Mirrors (tickMirror cfg root c) t (prvCallTerminal pxQueue) (prvCallTerminal pxQueue) := by
  refine (xNetworkQueueIsEmpty_mirrors ht pxQueue).bind fun bEmpty t ht => ?_
  cases bEmpty with
  | true => exact .ret ht _
  | false => exact .ret ht _

theorem uxNetworkQueueGetTicksUntilWakeup_mirrors (hc : c < 2 ^ 32) (ht : t.uxTime = none) :
    Mirrors (tickMirror cfg root c) t uxNetworkQueueGetTicksUntilWakeup uxNetworkQueueGetTicksUntilWakeup := by
  simp only [uxNetworkQueueGetTicksUntilWakeup, call_eq, Prog.call_bind, Prog.ret_bind]
  apply mirrors_xTaskGetTickCount
  intro uxNow hnow
  apply mirrors_loadNextWakeup
  intro uxNextWakeup hwakeup _ hside
  have hlt := (hside (by simp [ht]) uxNow rfl).lt_iff hc hnow hwakeup
  by_cases h : uxNow < uxNextWakeup
  · rw [if_pos h, if_pos (hlt.mpr h), sub32_shiftTick_shiftTick]
    exact .ret rfl _
  · rw [if_neg h, if_neg (mt hlt.mp h)]
    exact .ret rfl _

theorem vNetworkQueueAddWakeupEvent_mirrors (hc : c < 2 ^ 32) {uxTime : Nat} (htime : uxTime < 2 ^ 32)
    (ht : t.uxTime = some uxTime) :
    Mirrors (tickMirror cfg root c) t (vNetworkQueueAddWakeupEvent uxTime)
      (vNetworkQueueAddWakeupEvent (shiftTick c uxTime)) := by
  simp only [vNetworkQueueAddWakeupEvent, call_eq, Prog.call_bind, Prog.ret_bind]
  apply mirrors_xTaskGetTickCount
  intro uxNow hnow
  apply mirrors_loadNextWakeup
  intro uxNextWakeup hwakeup htimes hside
  have hlt := (htimes uxTime ht).lt_iff hc htime hwakeup
  -- The event is compared with the sample only when the activation is not the earlier one.
  have hor : (shiftTick c uxTime < shiftTick c uxNextWakeup ∨ shiftTick c uxNextWakeup ≤ shiftTick c uxNow) ↔
      (uxTime < uxNextWakeup ∨ uxNextWakeup ≤ uxNow) := by
    by_cases h : uxTime < uxNextWakeup
    · exact iff_of_true (.inl (hlt.mpr h)) (.inl h)
    · have hlater : ∀ x ∈ t.uxTime, uxNextWakeup ≤ x := by
        intro x hx
        cases ht.symm.trans hx
        exact Nat.le_of_not_lt h
      have hle := (hside hlater uxNow rfl).symm.le_iff hc hwakeup hnow
      exact or_congr hlt hle
  by_cases h : uxTime < uxNextWakeup ∨ uxNextWakeup ≤ uxNow
  · rw [if_pos h, if_pos (hor.mpr h)]
    exact mirrors_storeNextWakeup htime (.ret rfl _)
  · rw [if_neg h, if_neg (mt hor.mp h)]
    exact .ret rfl _

theorem pxPeekNextPacket_mirrors (ht : t.uxTime = none) (pxQueue : Option NetworkQueue) :
    Mirrors (tickMirror cfg root c) t (pxPeekNextPacket pxQueue) (pxPeekNextPacket pxQueue) := by
  refine (deref_mirrors ht pxQueue).bind fun q t ht => ⟨trivial, _, rfl, fun r _ _ => ?_⟩
  cases r with
  | none => exact .ret ht _
  | some xItem => exact .ret ht _

/-- The schedulers of a node with a queue are in the list for which the comparisons are asked. -/
def Listed (root : NetworkNode) (fnReady : ReadyQueueFunction) (pxQueue : Option NetworkQueue) : Prop :=
  ∀ s q, fnReady = .prvCBSReady s → pxQueue = some q → s ∈ root.cbsNodes

theorem prvCBSReady_mirrors (hc : c < 2 ^ 32) {s : SchedulerCBS} {pxQueue : Option NetworkQueue}
    (hs : Listed root (.prvCBSReady s) pxQueue) :
    Mirrors (tickMirror cfg root c) t (prvCBSReady cfg s pxQueue) (prvCBSReady cfg s pxQueue) := by
  simp only [prvCBSReady, call_eq, Prog.call_bind, Prog.ret_bind]
  apply mirrors_xTaskGetTickCount
  intro uxNow hnow
  apply mirrors_loadNextActivation rfl
  intro uxNextActivation hactivation hside hcredit
  have hle := hside.le_iff hc hactivation hnow
  by_cases h : uxNextActivation ≤ uxNow
  · simp only [if_pos h, if_pos (hle.mpr h)]
    cases pxQueue with
    | none =>
        simp only [pxPeekNextPacket, deref, fault_bind]
        exact fault_mirrors _ .null
    | some q =>
        have hcharge (uxDelay : Nat) := uxCBSCharge_shiftTick uxDelay hc hnow (hcredit h s (hs s q rfl rfl) rfl)
        refine (pxPeekNextPacket_mirrors rfl (some q)).bind fun pxBuf t ht =>
          (deref_mirrors ht pxBuf).bind fun b t ht => mirrors_loadBuf fun d => ?_
        by_cases hzero : s.uxBandwidth = 0
        · simp only [if_pos hzero]
          exact fault_mirrors _ .divZero
        · simp only [if_neg hzero]
          rw [hcharge]
          exact mirrors_storeNextActivation (wrap32_lt _) (.ret ht _)
  · simp only [if_neg h, if_neg (mt hle.mp h)]
    exact (vNetworkQueueAddWakeupEvent_mirrors hc hactivation rfl).bind fun _ t ht => .ret ht false

theorem netschedCallReadyFromNode_mirrors (hc : c < 2 ^ 32) (ht : t.uxTime = none) (g : SchedulerGeneric)
    {pxQueue : Option NetworkQueue} (hg : Listed root g.fnReady pxQueue) :
    Mirrors (tickMirror cfg root c) t (netschedCallReadyFromNode cfg g pxQueue)
      (netschedCallReadyFromNode cfg g pxQueue) := by
  rw [netschedCallReadyFromNode]
  cases hready : g.fnReady with
  | prvAlwaysReady => exact .ret ht true
  | prvCBSReady s =>
      rw [hready] at hg
      exact prvCBSReady_mirrors hc hg

theorem Listed.of_cbsNodes {n : Nat} {g : SchedulerGeneric} {pxQueue : Option NetworkQueue} {next : List NetworkNode}
    (h : (NetworkNode.mk n g pxQueue next).cbsNodes ⊆ root.cbsNodes) : Listed root g.fnReady pxQueue := by
  intro s q hs hq
  apply h
  rw [hq, NetworkNode.cbsNodes, hs]
  exact List.mem_singleton_self s

mutual
theorem pxNetworkSchedulerCall_mirrors (hc : c < 2 ^ 32) {t : Sampled} (ht : t.uxTime = none) :
    (n : NetworkNode) → n.cbsNodes ⊆ root.cbsNodes →
      Mirrors (tickMirror cfg root c) t (pxNetworkSchedulerCall cfg n) (pxNetworkSchedulerCall cfg n)
  | .null, _ => fault_mirrors t .null
  | .mk n g pxQueue next, h => by
      simp only [pxNetworkSchedulerCall]
      refine (netschedCallReadyFromNode_mirrors hc ht g (.of_cbsNodes h)).bind fun ready t ht => ?_
      cases ready with
      | false => exact .ret ht none
      | true =>
          cases pxQueue with
          | some q => exact prvCallTerminal_mirrors ht q
          | none =>
              cases hsel : g.fnSelect with
              | prvSelectFirst => exact prvSelectFirst_mirrors hc ht next h
              | prvPrioritySelect => exact prvPrioritySelect_mirrors hc ht n next h

theorem prvSelectFirst_mirrors (hc : c < 2 ^ 32) {t : Sampled} (ht : t.uxTime = none) :
    (ns : List NetworkNode) → cbsNodesList ns ⊆ root.cbsNodes →
      Mirrors (tickMirror cfg root c) t (prvSelectFirst cfg ns) (prvSelectFirst cfg ns)
  | [], _ => fault_mirrors t .heap
  | child :: _, h => pxNetworkSchedulerCall_mirrors hc ht child (List.append_subset.mp h).1

theorem prvPrioritySelect_mirrors (hc : c < 2 ^ 32) {t : Sampled} (ht : t.uxTime = none) :
    (n : Nat) → (ns : List NetworkNode) → cbsNodesList ns ⊆ root.cbsNodes →
      Mirrors (tickMirror cfg root c) t (prvPrioritySelect cfg n ns) (prvPrioritySelect cfg n ns)
  | 0, _, _ => by
      simp only [prvPrioritySelect]
      exact .ret ht none
  | _ + 1, [], _ => fault_mirrors t .heap
  | n + 1, child :: ns, h => by
      simp only [prvPrioritySelect]
      obtain ⟨hchild, hns⟩ := List.append_subset.mp h
      refine (pxNetworkSchedulerCall_mirrors hc ht child hchild).bind fun r t ht => ?_
      cases r with
      | some q => exact .ret ht (some q)
      | none => exact prvPrioritySelect_mirrors hc ht n ns hns
end

theorem xNetworkQueueSchedule_mirrors (hc : c < 2 ^ 32) (ht : t.uxTime = none) :
    Mirrors (tickMirror cfg root c) t (xNetworkQueueSchedule cfg root) (xNetworkQueueSchedule cfg root) := by
  cases root with
  | null => exact .ret ht none
  | mk => exact pxNetworkSchedulerCall_mirrors hc ht _ (List.Subset.refl _)

theorem RoundCall.run_mirrors (hc : c < 2 ^ 32) (ht : t.uxTime = none) (r : RoundCall) :
    Mirrors (tickMirror cfg root c) t (r.run cfg root) (r.run cfg root) := by
  cases r with
  | uxNetworkQueueGetTicksUntilWakeup =>
      exact (uxNetworkQueueGetTicksUntilWakeup_mirrors hc ht).bind fun uxTicks t ht =>
        .ret ht (RoundResult.ticks uxTicks)
  | xNetworkQueueSchedule =>
      exact (xNetworkQueueSchedule_mirrors hc ht).bind fun q t ht => .ret ht (RoundResult.queue q)
  | xNetworkQueuePop q =>
      exact (xNetworkQueuePop_mirrors ht q 0).bind fun pxItem t ht => .ret ht (RoundResult.item pxItem)

theorem prvRounds_mirrors (hc : c < 2 ^ 32) (calls : List RoundCall) (ht : t.uxTime = none) :
    Mirrors (tickMirror cfg root c) t (prvRounds cfg root calls) (prvRounds cfg root calls) := by
  induction calls generalizing t with
  | nil => exact .ret ht []
  | cons r calls ih =>
      exact (RoundCall.run_mirrors hc ht r).bind fun a t ht => (ih ht).bind fun as t ht => .ret ht (a :: as)

theorem readyDecisions_shiftEvent (hc : c < 2 ^ 32) (es : List Event) (t : Sampled)
    (ht : ∀ uxNow ∈ t.uxNow, uxNow < 2 ^ 32) (hes : ∀ e ∈ es, Call.AnswersTick e)
    (h : (tickMirror cfg root c).Holds t es) :
    readyDecisions (t.uxNow.map (shiftTick c)) (es.map (shiftEvent c)) = readyDecisions t.uxNow es := by
  induction es generalizing t with
  | nil => rfl
  | cons e es ih =>
      obtain ⟨hask, hrest⟩ := h
      obtain ⟨hanswer, hanswers⟩ := List.forall_mem_cons.mp hes
      obtain ⟨o, r⟩ := e
      obtain ⟨uxNow, uxTime⟩ := t
      cases o with
      | xTaskGetTickCount =>
          have hr : ∀ x ∈ some r, x < 2 ^ 32 := fun x hx => Option.mem_some.mp hx ▸ hanswer
          exact ih ⟨some r, uxTime⟩ hr hanswers hrest
      | loadNextActivation id =>
          have hih := ih ((tickMirror cfg root c).next ⟨uxNow, uxTime⟩ ⟨.loadNextActivation id, r⟩) ht hanswers hrest
          cases uxNow with
          | none => exact hih
          | some x =>
              have hle := (hask x rfl).1.le_iff hc hanswer (ht x rfl)
              exact congrArg₂ List.cons (decide_eq_decide.mpr hle) hih
      | loadNextWakeup => exact ih ⟨uxNow, none⟩ ht hanswers hrest
      | _ =>
          cases uxNow with
          | none => exact ih ⟨none, uxTime⟩ ht hanswers hrest
          | some x => exact ih ⟨some x, uxTime⟩ ht hanswers hrest

end Code

end FreeRtosTsn.Scheduler
