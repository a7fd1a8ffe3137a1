import FreeRtosTsn.Scheduler.Response
import FreeRtosTsn.Scheduler.Lemmas.Overtaking
import Mathlib.Algebra.BigOperators.Group.Finset.Piecewise
import Mathlib.Algebra.Order.BigOperators.Group.Finset

/-!
# What a round serves while an item waits

The rounds that begin while the item waits pop one item each. So the number of the bodies that were entered is the
number of the items popped, but for the round that is not over and one sleep.
-/

namespace FreeRtosTsn.Scheduler

open Lib Kernel

variable {cfg : Config} {Q : Finset QueueHandle} {q : QueueHandle} {l₀ : Ledger}

/-! ## The items served -/

def Ledger.served (l : Ledger) (Q : Finset QueueHandle) : Nat := ∑ q ∈ Q, (l.popped q).length

theorem Ledger.Grows.served {l l' : Ledger} (h : l.Grows l') : l.served Q ≤ l'.served Q :=
  Finset.sum_le_sum fun q _ => h.popped q

theorem Ledger.served_receive (l : Ledger) {q : QueueHandle} (hq : q ∈ Q) (t : Nat) (i : NetworkQueueItem) :
    (l.receive (.xQueueReceive q t) (some i)).served Q = l.served Q + 1 := by
  rw [Ledger.served, Ledger.served, ← Finset.add_sum_erase Q _ hq,
    ← Finset.add_sum_erase Q (fun q => (l.popped q).length) hq]
  have hothers : ∑ q' ∈ Q.erase q, ((l.receive (.xQueueReceive q t) (some i)).popped q').length =
      ∑ q' ∈ Q.erase q, (l.popped q').length :=
    Finset.sum_congr rfl fun q' hq' => by simp [Ledger.receive, Function.update_of_ne (Finset.ne_of_mem_erase hq')]
  rw [hothers]
  simp [Ledger.receive, Nat.add_right_comm]

/-- While the item waits, as many items were served as bodies were entered, but for `m`. -/
def Paced (Q : Finset QueueHandle) (q : QueueHandle) (l₀ : Ledger) (n m : Nat) (S : Service) : Prop :=
  StillWaits q l₀ S.ledger → n + l₀.served Q ≤ S.ledger.served Q + m

namespace Paced

variable {n m : Nat}

theorem congr {S S' : Service} (h : Paced Q q l₀ n m S) (hpopped : S'.ledger.popped = S.ledger.popped) :
    Paced Q q l₀ n m S' := by
  rw [Paced, Ledger.served, Ledger.served, StillWaits, hpopped]
  exact h

theorem stable (n m : Nat) : Stable (serviceSem cfg) (Paced Q q l₀ n m) := fun _ _ h hst => h.congr hst.ledger.2

theorem succ {S : Service} (h : Paced Q q l₀ n m S) : Paced Q q l₀ (n + 1) (m + 1) S := fun hw => by
  have := h hw
  omega

theorem mono {S : Service} {m' : Nat} (h : Paced Q q l₀ n m S) (hm : m ≤ m') : Paced Q q l₀ n m' S :=
  fun hw => (h hw).trans (Nat.add_le_add_left hm _)

/-- Calls that take no item. -/
theorem frame {α : Type} {p : P α} (hp : p.Within Call.TakesNone) {S : Service} (h : Paced Q q l₀ n m S) :
    wp (serviceSem cfg) (fun _ => Paced Q q l₀ n m) p (fun _ => Paced Q q l₀ n m) S := by
  refine wp.frame hp (stable n m) h (fun _ _ _ h => h) ?_
  rintro o S r S' ho h ⟨-, hl⟩
  exact h.congr (by rw [hl, ho.receive])

/-- A pop that finds an item. -/
theorem pop {s : System} {l : Ledger} (h : Paced Q q l₀ n (m + 1) ⟨s, l⟩) {q' : QueueHandle} (hq' : q' ∈ Q)
    (e : Event) (w' : World) (t : Nat) (i : NetworkQueueItem) :
    Paced Q q l₀ n m ⟨s.called e w', l.receive (.xQueueReceive q' t) (some i)⟩ := by
  intro hw
  have hwaited : StillWaits q l₀ l := Nat.lt_of_le_of_lt ((l.receive_grows (.xQueueReceive q' t) (some i)).popped q) hw
  have hle := h hwaited
  dsimp only at hle ⊢
  rw [l.served_receive hq']
  omega

end Paced

/-! ## The bodies -/

/-- What is kept of an item that waits, with no bound on what else is popped. -/
abbrev Kept (q : QueueHandle) (l₀ : Ledger) : Service → Prop := Holds (fun _ => False) q l₀

/-- A round that ended with nothing found has left the item's leaf behind. -/
def ControllerLoop.slack : ControllerLoop → Nat
  | .outer => 0
  | .inner => 1

/-- When `n` bodies were entered, and `l` is to be entered next. -/
def Responds (Q : Finset QueueHandle) (q : QueueHandle) (l₀ : Ledger) (n : Nat) (l : ControllerLoop) (S : Service) :
    Prop := Kept q l₀ S ∧ Paced Q q l₀ n l.slack S

variable {root : NetworkNode}

theorem prvTSNControllerServeQueue_inner (q : NetworkQueue) :
    (prvTSNControllerServeQueue cfg q).Ends fun l => l = .inner := by
  refine Prog.Ends.bind fun r => ?_
  cases r with
  | none => rfl
  | some xItem =>
      refine Prog.Ends.bind fun _ => ?_
      split
      · refine Prog.Ends.bind fun _ => ?_
        split
        · exact Prog.Ends.bind fun _ => rfl
        · rfl
      · rfl

theorem prvTSNControllerSleep_inner : (prvTSNControllerSleep cfg).Ends fun l => l = .inner := by
  rw [prvTSNControllerSleep_eq]
  intro uxNow uxNextWakeup
  dsimp only
  rw [prvTSNControllerResample]
  split
  · exact fun _ _ _ => rfl
  · exact fun _ => rfl

theorem Acts.receive_some {q : QueueHandle} {t : Nat} {w w' : World} {r : Option NetworkQueueItem}
    (h : Acts cfg (.xQueueReceive q t) w r w') (hq : w.queues q ≠ []) : ∃ i, r = some i := by
  cases h
  exact ⟨_, List.head?_eq_some_head hq⟩

theorem prvTSNControllerServeQueue_paced {n : Nat} {q' : NetworkQueue} (hq' : q'.xQueue ∈ Q) {S : Service}
    (hkept : Kept q l₀ S) (hfound : Found (some q') S) (h : Paced Q q l₀ n 2 S) :
    wp (serviceSem cfg) (fun _ => Paced Q q l₀ n 2) (prvTSNControllerServeQueue cfg q')
      (Responds Q q l₀ n) S := by
  have hinner := @prvTSNControllerServeQueue_inner cfg q'
  obtain ⟨k, hk, hfin⟩ := @prvTSNControllerServeQueue_finishing cfg q'
  have hstable : Stable (serviceSem cfg) fun S => (Kept q l₀ S ∧ Found (some q') S) ∧ Paced Q q l₀ n 2 S :=
    (Holds.stable.and (Found.stable (some q'))).and (Paced.stable n 2)
  rw [hk] at hinner ⊢
  refine wp.call_of_stable hstable ⟨⟨hkept, hfound⟩, h⟩ (fun _ h => h.2) ?_
  rintro ⟨s, l⟩ r ⟨s', l'⟩ ⟨⟨hkept, hfound⟩, h⟩ ⟨⟨w', hw, rfl⟩, rfl⟩
  obtain ⟨i, rfl⟩ := hw.receive_some (hfound.2 q' rfl)
  have hpopped := h.pop hq' ⟨.xQueueReceive q'.xQueue 0, some i⟩ w' 0 i
  refine wp.mono ?_ (wp.ends (hinner (some i))
    (wp.and_post (finishing_overtaking (hfin (some i)) (hkept.pop hw fun h => h.elim))
      (wp.mono_pre (fun _ _ h => h.mono (Nat.le_succ 1))
        (hpopped.frame ((hfin (some i)).mono fun _ => Or.inr)))))
  rintro _ S ⟨rfl, hkept, h⟩
  exact ⟨hkept, h⟩

theorem xNetworkQueueSchedule_paced (hroot : root.WellFormed) {n : Nat} {S : Service} (hkept : Kept q l₀ S)
    (h : Paced Q q l₀ n 2 S) :
    wp (serviceSem cfg) (fun _ => Paced Q q l₀ n 2) (xNetworkQueueSchedule cfg root) (fun r S =>
      (FoundAt (fun _ => False) q l₀ [] root.leaves r S ∧ Found r S) ∧ Paced Q q l₀ n 2 S) S := by
  exact wp.and_post
    (wp.and_post (xNetworkQueueSchedule_overtaking hroot hkept) (xNetworkQueueSchedule_service root hkept.inv))
    (h.frame ((xNetworkQueueSchedule_scheduling root).mono fun _ => Or.inl))

/-- A round that finds nothing has left every leaf behind; one that finds a queue serves an item of it. -/
theorem prvTSNController_paced (hroot : root.WellFormed)
    (hleaf : ∃ l ∈ root.leaves, l.cbs = none ∧ l.pxQueue.xQueue = q) (n : Nat) (l : ControllerLoop) (S : Service)
    (h : Responds (leafQueues root.leaves) q l₀ n l S) :
    wp (serviceSem cfg) (fun _ => Paced (leafQueues root.leaves) q l₀ (n + 1) 2) ((serviceLoops cfg root).body l)
      (Responds (leafQueues root.leaves) q l₀ (n + 1)) ((serviceLoops cfg root).enter l S) := by
  obtain ⟨hkept, h⟩ := h
  cases l with
  | outer =>
      have hpast : Past (fun _ => False) q l₀ [] S := ⟨hkept, by simp⟩
      refine wp.mono ?_ (wp.ends prvTSNControllerSleep_inner
        (wp.and_post (scheduling_overtaking prvTSNControllerSleep_scheduling hpast)
          (wp.mono_pre (fun _ _ h => h.mono (Nat.le_succ 1))
            (h.succ.frame (prvTSNControllerSleep_scheduling.mono fun _ => Or.inl)))))
      rintro _ S ⟨rfl, hpast, h⟩
      exact ⟨hpast.toHolds, h⟩
  | inner =>
      have henter : Kept q l₀ ((serviceLoops cfg root).enter .inner S) :=
        ⟨⟨hkept.inv.fifo, hkept.inv.accepted_lt, hkept.inv.current_lt, hkept.inv.current_inj, hkept.inv.idle,
          hkept.inv.running, hkept.inv.returned⟩, hkept.grows, hkept.once⟩
      have hpaced : Paced (leafQueues root.leaves) q l₀ (n + 1) 2 ((serviceLoops cfg root).enter .inner S) :=
        h.succ.congr rfl
      refine wp.bind (wp.mono ?_ (xNetworkQueueSchedule_paced hroot henter hpaced))
      rintro r S ⟨⟨hat, hfound⟩, h⟩
      cases r with
      | none =>
          have hgone : ¬StillWaits q l₀ S.ledger := hat.gone (by simpa using hleaf)
          exact wp.ret_of_stable (Holds.stable.and (Paced.stable (n + 1) 0))
            ⟨hat.toHolds, fun hw => absurd hw hgone⟩ fun _ h => h
      | some q' =>
          obtain ⟨bef, l, aft, hls, rfl, hpast⟩ := hat
          refine prvTSNControllerServeQueue_paced ?_ hpast.toHolds hfound h
          simp [leafQueues, hls]

/-! ## Whose items are served -/

theorem behind_of_not_ahead {ls : List Leaf} {q q' : QueueHandle} (hne : q' ≠ q) (hq' : q' ∉ queuesAhead ls q) :
    Behind ls q q' := by
  rintro bef l aft rfl rfl
  by_contra hnone
  refine hq' (Finset.mem_erase.mpr ⟨hne, List.mem_toFinset.mpr (List.mem_map.mpr ⟨l, ?_, rfl⟩)⟩)
  -- No leaf up to `l` is the one where the leaves ahead end.
  have hall : ∀ x ∈ bef, (!(x.cbs.isNone && x.pxQueue.xQueue == q)) = true := by
    intro x hx
    simp only [Bool.not_eq_true', Bool.and_eq_false_imp, Option.isNone_iff_eq_none, beq_eq_false_iff_ne]
    exact fun hcbs hxq => hnone ⟨x, hx, hcbs, hxq⟩
  rw [leavesAhead, List.takeWhile_append_of_pos hall, List.takeWhile_cons_of_pos (by simp [hne])]
  simp

theorem LedgerInv.length {S : Service} (h : LedgerInv S) (q : QueueHandle) :
    (S.ledger.accepted q).length = (S.ledger.popped q).length + (S.sys.w.queues q).length := by
  simpa using congrArg List.length (h.fifo q)

section Served

variable {ls : List Leaf} {S S' : Service} (h : LedgerInv S) (h' : LedgerInv S') (hgrows : S.ledger.Grows S'.ledger)
  (hwaits : StillWaits q S.ledger S'.ledger)

include h hwaits

/-- The item that waits is not popped. -/
theorem popped_own : (S'.ledger.popped q).length ≤ (S.ledger.popped q).length + ((S.sys.w.queues q).length - 1) := by
  have hown := h.length q
  rw [StillWaits] at hwaits
  omega

include h' hgrows

theorem popped_each {q₀ : QueueHandle} {is : List NetworkQueueItem} (hlen : is.length ≤ 1)
    (hpopped : ∀ q', Behind ls q q' → S'.ledger.popped q' = S.ledger.popped q' ++ if q' = q₀ then is else [])
    (q' : QueueHandle) :
    (S'.ledger.popped q').length ≤ (S.ledger.popped q').length + (if q' = q then (S.sys.w.queues q).length - 1 else 0) +
      (if q' ∈ queuesAhead ls q then offered S S' q' else 0) + if q' = q₀ then 1 else 0 := by
  by_cases hq : q' = q
  · subst hq
    have hown := popped_own h hwaits
    simp only [if_true]
    omega
  · by_cases hahead : q' ∈ queuesAhead ls q
    · have hlen₁ := h.length q'
      have hlen₂ := h'.length q'
      have hle := hgrows.accepted q'
      simp only [hq, hahead, if_true, if_false, offered]
      omega
    · rw [hpopped q' (behind_of_not_ahead hq hahead), List.length_append]
      simp only [hq, hahead, if_false]
      split <;> simp [hlen]

/-- The items of the queue itself and of the queues ahead, and one more. -/
theorem served_le (honce : PoppedOnce (Behind ls q) S.ledger S'.ledger) :
    S'.ledger.served Q ≤ S.ledger.served Q + interference ls q S S' := by
  obtain ⟨q₀, is, hlen, hpopped⟩ := honce
  have hahead : ∑ q' ∈ Q ∩ queuesAhead ls q, offered S S' q' ≤ ∑ q' ∈ queuesAhead ls q, offered S S' q' :=
    Finset.sum_le_sum_of_subset Finset.inter_subset_right
  have hpos : 0 < (S.sys.w.queues q).length := by
    have hown := h.length q
    have hpopped := hgrows.popped q
    rw [StillWaits] at hwaits
    omega
  refine (Finset.sum_le_sum fun q' _ => popped_each h h' hgrows hwaits hlen hpopped q').trans ?_
  rw [Finset.sum_add_distrib, Finset.sum_add_distrib, Finset.sum_add_distrib, Finset.sum_ite_eq', Finset.sum_ite_eq',
    Finset.sum_ite_mem]
  simp only [interference, Ledger.served]
  split <;> split <;> omega

end Served

theorem interference_le {ls : List Leaf} {S S' : Service} {N : Nat}
    (hN : ∀ q' ∈ queuesAhead ls q, (S'.ledger.accepted q').length ≤ N) :
    interference ls q S S' ≤ (S.sys.w.queues q).length + ∑ q' ∈ queuesAhead ls q, ((S.sys.w.queues q').length + N) :=
  Nat.add_le_add_left (Finset.sum_le_sum fun q' hq' =>
    Nat.add_le_add_left ((Nat.sub_le _ _).trans (hN q' hq')) _) _

/-! ## A whole run -/

theorem ServiceReachable.paced (hroot : root.WellFormed) {s₀ : System} (hs₀ : Starts s₀) {p₁ p₂ : P ControllerLoop}
    {S₁ S₂ : Service} (h₁ : ServiceReachable cfg root s₀ (p₁, S₁)) {n : Nat}
    (h₂ : RunsIn cfg root (p₁, S₁) n (p₂, S₂)) (hleaf : ∃ l ∈ root.leaves, l.cbs = none ∧ l.pxQueue.xQueue = q) :
    Paced (leafQueues root.leaves) q S₁.ledger n 2 S₂ := by
  have hstart : ∀ m S, Kept q S₁.ledger S → Paced (leafQueues root.leaves) q S₁.ledger 0 m S := by
    intro m S hkept _
    rw [Nat.zero_add]
    exact hkept.grows.served.trans (Nat.le_add_right _ m)
  have hrest : wp (serviceSem cfg) (HoldsAt (fun _ => False) q S₁.ledger) p₁ (fun _ => Kept q S₁.ledger) S₁ :=
    atMost_overtaking h₁.atMost (h₁.inv hs₀)
  have hall := Loops.ReachIn.wp (P := fun n _ => Paced (leafQueues root.leaves) q S₁.ledger n 2)
    (prvTSNController_paced hroot hleaf) h₂
    (wp.mono (fun l S h => ⟨h, hstart l.slack S h⟩) (wp.mono_pre (fun _ S h => hstart 2 S h) hrest))
  cases p₂ with
  | ret l => exact (hall S₂ .refl).2.mono (by cases l <;> decide)
  | call o k => exact hall.pre_call

/-! ## The controller is never stuck -/

def Call.Safe : Call → Prop
  | .fault _ => False
  | _ => True

theorem Call.Safe.acts {o : Call} (ho : o.Safe) (w : World) : ∃ r w', Acts cfg o w r w' := by
  cases o with
  | serve q i => exact ⟨(), w, rfl, rfl, rfl, rfl, rfl⟩
  | xQueueSendToBack q i t =>
      by_cases hroom : (w.queues q).length < cfg.ipconfigEventQueueLength
      · exact ⟨true, _, (effect_xQueueSendToBack cfg w q i t).trans (if_pos hroom)⟩
      · exact ⟨false, _, (effect_xQueueSendToBack cfg w q i t).trans (if_neg hroom)⟩
  | fault f => exact ho.elim
  | _ => exact ⟨_, _, rfl⟩

theorem prvCallTerminal_safe (q : NetworkQueue) : (prvCallTerminal q).Within Call.Safe := by
  refine Prog.Within.bind ⟨trivial, fun _ => trivial⟩ fun b => ?_
  cases b <;> trivial

mutual
theorem pxNetworkSchedulerCall_safe : (n : NetworkNode) → n.WellFormed → (∀ l ∈ n.leaves, l.cbs = none) →
    (pxNetworkSchedulerCall cfg n).Within Call.Safe
  | .null, hn, _ => hn.elim
  | .mk _ g (some q) _, _, hcbs => by
      have hg : g.fnReady.cbs = none := hcbs ⟨g.fnReady.cbs, q⟩ (by simp [NetworkNode.leaves])
      simp only [pxNetworkSchedulerCall, netschedCallReadyFromNode]
      cases hr : g.fnReady with
      | prvAlwaysReady => exact prvCallTerminal_safe q
      | prvCBSReady c => simp [hr, ReadyQueueFunction.cbs] at hg
  | .mk n g none next, hn, hcbs => by
      obtain ⟨hlen, hr, hfirst, hnext⟩ := hn
      simp only [pxNetworkSchedulerCall, netschedCallReadyFromNode, hr, Prog.pure_eq, Prog.ret_bind]
      cases hsel : g.fnSelect with
      | prvPrioritySelect => exact prvPrioritySelect_safe n next hlen hnext hcbs
      | prvSelectFirst => exact prvSelectFirst_safe next (hfirst hsel) hnext hcbs

theorem prvSelectFirst_safe : (ns : List NetworkNode) → ns.length = 1 → WellFormedList ns →
    (∀ l ∈ leavesList ns, l.cbs = none) → (prvSelectFirst cfg ns).Within Call.Safe
  | [], hl, _, _ => by simp at hl
  | child :: ns, _, hn, hcbs => by
      simp only [prvSelectFirst]
      exact pxNetworkSchedulerCall_safe child hn.1 fun l hl => hcbs l (by simp [leavesList, hl])

theorem prvPrioritySelect_safe : (n : Nat) → (ns : List NetworkNode) → n = ns.length → WellFormedList ns →
    (∀ l ∈ leavesList ns, l.cbs = none) → (prvPrioritySelect cfg n ns).Within Call.Safe
  | 0, [], _, _, _ => trivial
  | n + 1, child :: ns, hl, hn, hcbs => by
      simp only [prvPrioritySelect]
      refine Prog.Within.bind (pxNetworkSchedulerCall_safe child hn.1 fun l hl => hcbs l (by simp [leavesList, hl]))
        fun r => ?_
      cases r with
      | some q => trivial
      | none =>
          exact prvPrioritySelect_safe n ns (by simpa using hl) hn.2 fun l hl => hcbs l (by simp [leavesList, hl])
end

theorem Call.Finishing.safe (o : Call) (ho : o.Finishing) : o.Safe := by
  cases o <;> trivial

theorem prvTSNController_safe (hroot : root.WellFormed) (hcbs : ∀ l ∈ root.leaves, l.cbs = none) (l : ControllerLoop) :
    (prvTSNController cfg root l).Within Call.Safe := by
  cases l with
  | outer =>
      rw [prvTSNController, prvTSNControllerSleep_eq]
      refine ⟨trivial, fun uxNow => ⟨trivial, fun uxNextWakeup => ?_⟩⟩
      dsimp only
      rw [prvTSNControllerResample]
      split
      · exact ⟨trivial, fun _ => ⟨trivial, fun _ => ⟨trivial, fun _ => trivial⟩⟩⟩
      · exact ⟨trivial, fun _ => trivial⟩
  | inner =>
      rw [prvTSNController, prvTSNControllerServe, xNetworkQueueSchedule_eq hroot]
      refine (pxNetworkSchedulerCall_safe root hroot hcbs).bind fun r => ?_
      cases r with
      | none => trivial
      | some q =>
          obtain ⟨k, hk, hfin⟩ := @prvTSNControllerServeQueue_finishing cfg q
          dsimp only
          rw [hk]
          exact ⟨trivial, fun r => (hfin r).mono Call.Finishing.safe⟩

/-- In a tree without credit based schedulers the controller can always make its next step. -/
theorem controller_moves (hroot : root.WellFormed) (hcbs : ∀ l ∈ root.leaves, l.cbs = none) {s₀ : System}
    {c : P ControllerLoop × Service} (hc : ServiceReachable cfg root s₀ c) :
    ∃ c', (serviceLoops cfg root).Moves (serviceSem cfg) c c' := by
  obtain ⟨p, S⟩ := c
  have hsafe := Loops.Reach.within (prvTSNController_safe hroot hcbs) hc (prvTSNController_safe hroot hcbs .outer)
  cases p with
  | ret l => exact ⟨_, .loop⟩
  | call o k =>
      obtain ⟨r, w', hw⟩ := hsafe.1.acts S.sys.w
      exact ⟨(k r, ⟨S.sys.called ⟨o, r⟩ w', S.ledger.receive o r⟩), .call ⟨⟨w', hw, rfl⟩, rfl⟩⟩

end FreeRtosTsn.Scheduler
