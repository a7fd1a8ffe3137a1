import FreeRtosTsn.Scheduler.Overtaking
import FreeRtosTsn.Scheduler.Lemmas.Service
import FreeRtosTsn.Lib.Count

/-!
# What a round keeps while an item waits

A body of the controller pops one item at most. A round that begins while the item waits finds its queue not empty,
so it stops there or before.
-/

namespace FreeRtosTsn.Scheduler

open Lib Kernel

variable {cfg : Config}

/-! ## One pop in a body -/

def Call.Receives : Call → Prop
  | .xQueueReceive _ _ => True
  | _ => False

/-- A call of the controller that takes no item. -/
def Call.TakesNone (o : Call) : Prop := o.Scheduling ∨ o.Finishing

theorem Call.TakesNone.receive {o : Call} (ho : o.TakesNone) (l : Ledger) (r : Call.Res o) : l.receive o r = l := by
  cases o <;> first | rfl | exact (ho.elim id id).elim

theorem Acts.takesNone {o : Call} {w w' : World} {r : Call.Res o} (ho : o.TakesNone) (h : Acts cfg o w r w') :
    w'.queues = w.queues := by
  rcases ho with ho | ho
  · exact (Acts.scheduling ho h).queues
  · cases o with
    | serve q i => exact h.queues
    | uxQueueMessagesWaiting q => cases h; rfl
    | loadQueueList => cases h; rfl
    | vTaskPrioritySet p => cases h; rfl
    | _ => exact ho.elim

theorem prvTSNControllerServeQueue_finishing (q : NetworkQueue) : ∃ k,
    prvTSNControllerServeQueue cfg q = .call (σ := Calls) (.xQueueReceive q.xQueue 0) k ∧
      ∀ r, (k r).Within Call.Finishing := by
  simp only [prvTSNControllerServeQueue, xNetworkQueuePop, xNetworkQueueIsEmpty, call_eq, Prog.call_bind,
    Prog.ret_bind, Prog.pure_eq]
  refine ⟨_, rfl, fun r => ?_⟩
  cases r with
  | none => trivial
  | some xItem =>
      refine ⟨trivial, fun _ => ?_⟩
      cases cfg.tsnconfigControllerHasDynamicPrio with
      | false => trivial
      | true =>
          refine ⟨trivial, fun n => ?_⟩
          dsimp only
          split
          · refine vTSNControllerComputePriority_finishing.bind fun _ => ?_
            trivial
          · trivial

theorem prvTSNController_atMost (root : NetworkNode) (l : ControllerLoop) :
    (prvTSNController cfg root l).AtMost Call.TakesNone Call.Receives 1 := by
  cases l with
  | outer => exact .of_within 1 (prvTSNControllerSleep_scheduling.mono fun _ => Or.inl)
  | inner =>
      refine Prog.AtMost.bind (m := 0) (n := 1)
        (.of_within 0 ((xNetworkQueueSchedule_scheduling root).mono fun _ => Or.inl)) fun r => ?_
      cases r with
      | none => trivial
      | some q =>
          obtain ⟨k, hk, hfin⟩ := @prvTSNControllerServeQueue_finishing cfg q
          dsimp only
          rw [hk]
          exact Or.inr ⟨trivial, 0, rfl, fun r => .of_within 0 ((hfin r).mono fun _ => Or.inr)⟩

/-! ## The ledger grows -/

structure Ledger.Grows (l l' : Ledger) : Prop where
  accepted : ∀ q, (l.accepted q).length ≤ (l'.accepted q).length
  popped : ∀ q, (l.popped q).length ≤ (l'.popped q).length

theorem Ledger.Grows.refl (l : Ledger) : l.Grows l := ⟨fun _ => Nat.le_refl _, fun _ => Nat.le_refl _⟩

theorem Ledger.Grows.trans {l₁ l₂ l₃ : Ledger} (h : l₁.Grows l₂) (h' : l₂.Grows l₃) : l₁.Grows l₃ :=
  ⟨fun q => (h.accepted q).trans (h'.accepted q), fun q => (h.popped q).trans (h'.popped q)⟩

theorem Ledger.finish_accepted (l : Ledger) (t n : Nat) (p : P Bool) : (l.finish t n p).accepted = l.accepted := by
  cases p <;> rfl

theorem Ledger.finish_popped (l : Ledger) (t n : Nat) (p : P Bool) : (l.finish t n p).popped = l.popped := by
  cases p <;> rfl

theorem Ledger.send_grows (l : Ledger) (n : Nat) (o : Call) (r : Call.Res o) (q : QueueHandle) :
    (l.accepted q).length ≤ ((l.send n o r).accepted q).length := by
  unfold Ledger.send
  split
  · rename_i q' _ _
    by_cases hq : q = q'
    · simp [hq]
    · simp [Function.update_of_ne hq]
  · exact Nat.le_refl _

theorem Ledger.receive_grows (l : Ledger) (o : Call) (r : Call.Res o) : l.Grows (l.receive o r) := by
  unfold Ledger.receive
  split
  · rename_i q _ i
    refine ⟨fun _ => Nat.le_refl _, fun q' => ?_⟩
    by_cases hq : q' = q
    · simp [hq]
    · simp [Function.update_of_ne hq]
  · exact .refl l

theorem Ledger.receive_accepted (l : Ledger) (o : Call) (r : Call.Res o) : (l.receive o r).accepted = l.accepted := by
  unfold Ledger.receive
  split <;> rfl

theorem InsertStep.ledger {S S' : Service} (hst : InsertStep cfg S S') :
    S.ledger.Grows S'.ledger ∧ S'.ledger.popped = S.ledger.popped := by
  cases hst with
  | start => exact ⟨⟨fun _ => Nat.le_refl _, fun _ => Nat.le_refl _⟩, rfl⟩
  | @call s l t n o k r w' =>
      have hpopped : ((l.send n o r).finish t n (k r)).popped = l.popped := by
        rw [Ledger.finish_popped, Ledger.send_popped]
      refine ⟨⟨fun q => ?_, fun q => Nat.le_of_eq ?_⟩, hpopped⟩
      · rw [Ledger.finish_accepted]
        exact l.send_grows n o r q
      · rw [hpopped]
  | tick => exact ⟨.refl _, rfl⟩

/-! ## While the item waits -/

section Waits

variable (C : QueueHandle → Prop) (q : QueueHandle) (l₀ : Ledger)

/-- As long as the item waits, the queues of `C` lost one item at most. -/
structure Holds (S : Service) : Prop where
  inv : LedgerInv S
  grows : l₀.Grows S.ledger
  once : StillWaits q l₀ S.ledger → PoppedOnce C l₀ S.ledger

/-- The item was popped if the round has left a leaf of its queue behind. -/
structure Past (done : List Leaf) (S : Service) : Prop extends Holds C q l₀ S where
  gone : (∃ l ∈ done, l.cbs = none ∧ l.pxQueue.xQueue = q) → ¬StillWaits q l₀ S.ledger

variable {C q l₀}

theorem PoppedOnce.congr {l l' : Ledger} (h : PoppedOnce C l₀ l) (hpopped : l'.popped = l.popped) :
    PoppedOnce C l₀ l' := by
  rw [PoppedOnce, hpopped]
  exact h

theorem StillWaits.congr {l l' : Ledger} (hpopped : l'.popped = l.popped) :
    StillWaits q l₀ l' ↔ StillWaits q l₀ l := by
  rw [StillWaits, StillWaits, hpopped]

theorem Holds.step {S S' : Service} (h : Holds C q l₀ S) (hst : InsertStep cfg S S') : Holds C q l₀ S' := by
  obtain ⟨hgrows, hpopped⟩ := hst.ledger
  exact ⟨h.inv.step hst, h.grows.trans hgrows, fun hw => (h.once ((StillWaits.congr hpopped).mp hw)).congr hpopped⟩

theorem Holds.stable : Stable (serviceSem cfg) (Holds C q l₀) := fun _ _ h hst => h.step hst

theorem Past.stable (done : List Leaf) : Stable (serviceSem cfg) (Past C q l₀ done) := fun _ _ h hst =>
  ⟨h.toHolds.step hst, fun hd hw => h.gone hd ((StillWaits.congr hst.ledger.2).mp hw)⟩

/-- A call of the controller that receives nothing. -/
theorem Past.keep {done : List Leaf} {s : System} {l : Ledger} (h : Past C q l₀ done ⟨s, l⟩) {e : Event} {w' : World}
    (hw : w'.queues = s.w.queues) : Past C q l₀ done ⟨s.called e w', l⟩ :=
  ⟨⟨h.inv.keep hw, h.grows, h.once⟩, h.gone⟩

def HoldsAt (C : QueueHandle → Prop) (q : QueueHandle) (l₀ : Ledger) (_ : Call) : Service → Prop := Holds C q l₀

theorem overtaking_call {α : Type} {o : Call} {k : Call.Res o → P α} {I : Service → Prop} {Q : α → Service → Prop}
    {S : Service} (hI : Stable (serviceSem cfg) I) (hS : I S) (hpre : ∀ S, I S → Holds C q l₀ S)
    (hk : ∀ s l r w', I ⟨s, l⟩ → Acts cfg o s.w r w' →
      wp (serviceSem cfg) (HoldsAt C q l₀) (k r) Q ⟨s.called ⟨o, r⟩ w', l.receive o r⟩) :
    wp (serviceSem cfg) (HoldsAt C q l₀) (.call (σ := Calls) o k) Q S := by
  refine wp.call_of_stable hI hS hpre ?_
  rintro ⟨s, l⟩ r ⟨s', l'⟩ h ⟨⟨w', hw, hs⟩, hl⟩
  dsimp only at hs hl hw
  rw [hs, hl]
  exact hk s l r w' h hw

theorem scheduling_overtaking {α : Type} {p : P α} (hp : p.Within Call.Scheduling) {done : List Leaf} {S : Service}
    (h : Past C q l₀ done S) :
    wp (serviceSem cfg) (HoldsAt C q l₀) p (fun _ => Past C q l₀ done) S := by
  refine wp.frame hp (Past.stable done) h (fun _ _ _ h => h.toHolds) ?_
  rintro o ⟨s, l⟩ r ⟨s', l'⟩ ho h ⟨⟨w', hw, rfl⟩, rfl⟩
  simpa only [ho.receive] using h.keep (Acts.scheduling ho hw).queues

/-! ## The traversal -/

/-- Where the traversal of `ls` ends that begins after `done`: past all of them, or at one of them. -/
def FoundAt (C : QueueHandle → Prop) (q : QueueHandle) (l₀ : Ledger) (done ls : List Leaf) :
    Option NetworkQueue → Service → Prop
  | none, S => Past C q l₀ (done ++ ls) S
  | some q', S => ∃ bef l aft, ls = bef ++ l :: aft ∧ l.pxQueue = q' ∧ Past C q l₀ (done ++ bef) S

theorem FoundAt.stable (done ls : List Leaf) (r : Option NetworkQueue) :
    Stable (serviceSem cfg) (FoundAt C q l₀ done ls r) := by
  intro S S' h hst
  cases r with
  | none => exact Past.stable _ S S' h hst
  | some q' =>
      obtain ⟨bef, l, aft, hls, hq, hp⟩ := h
      exact ⟨bef, l, aft, hls, hq, Past.stable _ S S' hp hst⟩

/-- The first leaf of the rest is left behind. -/
theorem FoundAt.append {done ls ls' : List Leaf} {r : Option NetworkQueue} {S : Service}
    (h : FoundAt C q l₀ (done ++ ls) ls' r S) : FoundAt C q l₀ done (ls ++ ls') r S := by
  cases r with
  | none => simpa only [FoundAt, List.append_assoc] using h
  | some q' =>
      obtain ⟨bef, l, aft, rfl, hq, hp⟩ := h
      exact ⟨ls ++ bef, l, aft, by simp, hq, by simpa only [List.append_assoc] using hp⟩

theorem FoundAt.append_left {done ls : List Leaf} (ls' : List Leaf) {q' : NetworkQueue} {S : Service}
    (h : FoundAt C q l₀ done ls (some q') S) : FoundAt C q l₀ done (ls ++ ls') (some q') S := by
  obtain ⟨bef, l, aft, rfl, hq, hp⟩ := h
  exact ⟨bef, l, aft ++ ls', by simp, hq, hp⟩

/-- A leaf is left behind when its scheduler is not ready, or its queue is empty. -/
theorem Past.leaf {done : List Leaf} {l : Leaf} {S : Service} (h : Past C q l₀ done S)
    (hl : l.cbs = none → S.sys.w.queues l.pxQueue.xQueue = []) : Past C q l₀ (done ++ [l]) S := by
  refine ⟨h.toHolds, ?_⟩
  rintro ⟨l', hl', hcbs, rfl⟩
  rcases List.mem_append.mp hl' with hl' | hl'
  · exact h.gone ⟨l', hl', hcbs, rfl⟩
  · -- An empty queue has nothing left of what it accepted.
    obtain rfl := List.mem_singleton.mp hl'
    have hlen := congrArg List.length (h.inv.fifo l'.pxQueue.xQueue)
    have hgrows := h.grows.accepted l'.pxQueue.xQueue
    simp only [hl hcbs, List.length_map, List.append_nil] at hlen
    exact Nat.not_lt.mpr (hlen ▸ hgrows)

theorem prvCallTerminal_overtaking {done : List Leaf} (l : Leaf) {S : Service} (h : Past C q l₀ done S) :
    wp (serviceSem cfg) (HoldsAt C q l₀) (prvCallTerminal l.pxQueue) (FoundAt C q l₀ done [l]) S := by
  simp only [prvCallTerminal, xNetworkQueueIsEmpty, call_eq, Prog.call_bind, Prog.ret_bind, Prog.pure_eq]
  refine overtaking_call (Past.stable done) h (fun _ h => h.toHolds) ?_
  intro s led n w' h hw
  cases hw
  have hkeep := h.keep (e := ⟨.uxQueueMessagesWaiting l.pxQueue.xQueue, (s.w.queues l.pxQueue.xQueue).length⟩)
    (rfl : s.w.queues = s.w.queues)
  cases hq : s.w.queues l.pxQueue.xQueue with
  | nil =>
      rw [hq] at hkeep
      exact wp.ret_of_stable (FoundAt.stable done [l] none) (hkeep.leaf fun _ => hq) fun _ h => h
  | cons i is =>
      rw [hq] at hkeep
      refine wp.ret_of_stable (FoundAt.stable done [l] (some l.pxQueue)) ?_ fun _ h => h
      exact ⟨[], l, [], rfl, rfl, by simpa [Ledger.receive] using hkeep⟩

mutual
theorem pxNetworkSchedulerCall_overtaking {done : List Leaf} : (n : NetworkNode) → n.WellFormed → {S : Service} →
    Past C q l₀ done S →
    wp (serviceSem cfg) (HoldsAt C q l₀) (pxNetworkSchedulerCall cfg n) (FoundAt C q l₀ done n.leaves) S
  | .null, hn, _, _ => hn.elim
  | .mk _ g (some q') _, _, S, h => by
      simp only [pxNetworkSchedulerCall, netschedCallReadyFromNode, NetworkNode.leaves]
      cases hr : g.fnReady with
      | prvAlwaysReady => exact prvCallTerminal_overtaking ⟨none, q'⟩ h
      | prvCBSReady c =>
          refine wp.bind (wp.mono ?_ (scheduling_overtaking (prvCBSReady_scheduling c (some q')) h))
          intro ready S h
          cases ready with
          | true => exact prvCallTerminal_overtaking ⟨some c, q'⟩ h
          | false =>
              -- A leaf with a scheduler is not one that the item waits at.
              have hpast : Past C q l₀ (done ++ [⟨some c, q'⟩]) S := h.leaf nofun
              exact wp.ret_of_stable (FoundAt.stable done _ none) hpast fun _ h => h
  | .mk n g none next, hn, S, h => by
      obtain ⟨hlen, hr, hfirst, hnext⟩ := hn
      simp only [pxNetworkSchedulerCall, netschedCallReadyFromNode, hr, Prog.pure_eq, Prog.ret_bind]
      simp only [NetworkNode.leaves]
      cases hsel : g.fnSelect with
      | prvPrioritySelect => exact prvPrioritySelect_overtaking n next hlen hnext h
      | prvSelectFirst => exact prvSelectFirst_overtaking next (hfirst hsel) hnext h

theorem prvSelectFirst_overtaking {done : List Leaf} : (ns : List NetworkNode) → ns.length = 1 →
    WellFormedList ns → {S : Service} → Past C q l₀ done S →
    wp (serviceSem cfg) (HoldsAt C q l₀) (prvSelectFirst cfg ns) (FoundAt C q l₀ done (leavesList ns)) S
  | [], hl, _, _, _ => by simp at hl
  | child :: ns, hl, hn, S, h => by
      obtain rfl : ns = [] := by simpa using hl
      simp only [prvSelectFirst, leavesList, List.append_nil]
      exact pxNetworkSchedulerCall_overtaking child hn.1 h

theorem prvPrioritySelect_overtaking {done : List Leaf} : (n : Nat) → (ns : List NetworkNode) → n = ns.length →
    WellFormedList ns → {S : Service} → Past C q l₀ done S →
    wp (serviceSem cfg) (HoldsAt C q l₀) (prvPrioritySelect cfg n ns) (FoundAt C q l₀ done (leavesList ns)) S
  | 0, [], _, _, S, h => by
      simp only [prvPrioritySelect, leavesList]
      exact wp.ret_of_stable (FoundAt.stable done [] none) (by simpa [FoundAt] using h) fun _ h => h
  | n + 1, child :: ns, hl, hn, S, h => by
      simp only [prvPrioritySelect, leavesList]
      refine wp.bind (wp.mono ?_ (pxNetworkSchedulerCall_overtaking child hn.1 h))
      intro r S hS
      cases r with
      | some q' =>
          exact wp.ret_of_stable (FoundAt.stable done _ (some q')) (hS.append_left (leavesList ns)) fun _ h => h
      | none =>
          exact wp.mono (fun _ _ h => h.append)
            (prvPrioritySelect_overtaking n ns (by simpa using hl) hn.2 hS)
end

theorem xNetworkQueueSchedule_overtaking {root : NetworkNode} (hroot : root.WellFormed) {S : Service}
    (h : Holds C q l₀ S) :
    wp (serviceSem cfg) (HoldsAt C q l₀) (xNetworkQueueSchedule cfg root) (FoundAt C q l₀ [] root.leaves) S := by
  rw [xNetworkQueueSchedule_eq hroot]
  exact pxNetworkSchedulerCall_overtaking root hroot ⟨h, by simp⟩

/-! ## Serving -/

theorem Holds.keep {s : System} {l : Ledger} (h : Holds C q l₀ ⟨s, l⟩) {e : Event} {w' : World}
    (hw : w'.queues = s.w.queues) : Holds C q l₀ ⟨s.called e w', l⟩ := ⟨h.inv.keep hw, h.grows, h.once⟩

theorem finishing_overtaking {α : Type} {p : P α} (hp : p.Within Call.Finishing) {S : Service} (h : Holds C q l₀ S) :
    wp (serviceSem cfg) (HoldsAt C q l₀) p (fun _ => Holds C q l₀) S := by
  refine wp.frame hp Holds.stable h (fun _ _ _ h => h) ?_
  rintro o ⟨s, l⟩ r ⟨s', l'⟩ ho h ⟨⟨w', hw, rfl⟩, rfl⟩
  simpa only [Call.TakesNone.receive (Or.inr ho)] using h.keep (Acts.takesNone (Or.inr ho) hw)

theorem LedgerInv.receive {s : System} {l : Ledger} (h : LedgerInv ⟨s, l⟩) {q : QueueHandle} {t : Nat}
    {r : Option NetworkQueueItem} {w' : World} (hw : Acts cfg (.xQueueReceive q t) s.w r w') :
    LedgerInv ⟨s.called ⟨.xQueueReceive q t, r⟩ w', l.receive (.xQueueReceive q t) r⟩ := by
  cases hw
  cases hq : s.w.queues q with
  | nil => exact h.keep (by simp [hq])
  | cons i is => exact h.pop hq t

/-- A pop from a queue that is not behind, or after the item was popped. -/
theorem Holds.pop {s : System} {l : Ledger} (h : Holds C q l₀ ⟨s, l⟩) {q' : QueueHandle} {t : Nat}
    {r : Option NetworkQueueItem} {w' : World} (hw : Acts cfg (.xQueueReceive q' t) s.w r w')
    (hq' : C q' → ¬StillWaits q l₀ l) :
    Holds C q l₀ ⟨s.called ⟨.xQueueReceive q' t, r⟩ w', l.receive (.xQueueReceive q' t) r⟩ := by
  have hgrows := l.receive_grows (.xQueueReceive q' t) r
  refine ⟨h.inv.receive hw, h.grows.trans hgrows, fun hwaits => ?_⟩
  have hwaited : StillWaits q l₀ l := Nat.lt_of_le_of_lt (hgrows.popped q) hwaits
  obtain ⟨q₀, is, hlen, hpopped⟩ := h.once hwaited
  refine ⟨q₀, is, hlen, fun u hu => ?_⟩
  have hne : u ≠ q' := fun hne => hq' (hne ▸ hu) hwaited
  cases r with
  | none => exact hpopped u hu
  | some i => simpa [Ledger.receive, Function.update_of_ne hne] using hpopped u hu

/-- Any pop, when the queues lost nothing before it. -/
theorem Holds.pop_first {s : System} {l : Ledger} (h : Holds C q l₀ ⟨s, l⟩) (hnone : ∀ q, C q → l.popped q = l₀.popped q)
    {q' : QueueHandle} {t : Nat} {r : Option NetworkQueueItem} {w' : World}
    (hw : Acts cfg (.xQueueReceive q' t) s.w r w') :
    Holds C q l₀ ⟨s.called ⟨.xQueueReceive q' t, r⟩ w', l.receive (.xQueueReceive q' t) r⟩ := by
  refine ⟨h.inv.receive hw, h.grows.trans (l.receive_grows _ _), fun _ => ⟨q', r.toList, ?_, fun u hu => ?_⟩⟩
  · cases r <;> simp
  · cases r with
    | none => simpa [Ledger.receive] using hnone u hu
    | some i =>
        by_cases hne : u = q'
        · subst hne
          simpa [Ledger.receive] using hnone u hu
        · simpa [Ledger.receive, hne] using hnone u hu

theorem prvTSNControllerServeQueue_overtaking {q' : NetworkQueue} {S : Service} (h : Holds C q l₀ S)
    (hq' : C q'.xQueue → ¬StillWaits q l₀ S.ledger) :
    wp (serviceSem cfg) (HoldsAt C q l₀) (prvTSNControllerServeQueue cfg q') (fun _ => Holds C q l₀) S := by
  obtain ⟨k, hk, hfin⟩ := @prvTSNControllerServeQueue_finishing cfg q'
  have hstable : Stable (serviceSem cfg) fun S => Holds C q l₀ S ∧ (C q'.xQueue → ¬StillWaits q l₀ S.ledger) :=
    fun _ _ h hst => ⟨h.1.step hst, fun hC hw => h.2 hC ((StillWaits.congr hst.ledger.2).mp hw)⟩
  rw [hk]
  refine overtaking_call hstable ⟨h, hq'⟩ (fun _ h => h.1) fun s l r w' h hw => ?_
  exact finishing_overtaking (hfin r) (h.1.pop hw h.2)

end Waits

/-! ## A whole run -/

variable {q : QueueHandle} {l₀ : Ledger} {root : NetworkNode}

/-- A queue behind the item is not selected before the round has left the item's queue behind. -/
theorem FoundAt.behind {q' : NetworkQueue} {S : Service}
    (h : FoundAt (Behind root.leaves q) q l₀ [] root.leaves (some q') S) :
    Holds (Behind root.leaves q) q l₀ S ∧ (Behind root.leaves q q'.xQueue → ¬StillWaits q l₀ S.ledger) := by
  obtain ⟨bef, l, aft, hls, rfl, hpast⟩ := h
  exact ⟨hpast.toHolds, fun hC => hpast.gone (by simpa using hC bef l aft hls rfl)⟩

theorem prvTSNController_overtaking (hroot : root.WellFormed) (l : ControllerLoop) {S : Service}
    (h : Holds (Behind root.leaves q) q l₀ S) :
    wp (serviceSem cfg) (HoldsAt (Behind root.leaves q) q l₀) ((serviceLoops cfg root).body l)
      (fun _ => Holds (Behind root.leaves q) q l₀) ((serviceLoops cfg root).enter l S) := by
  cases l with
  | outer =>
      have hpast : Past (Behind root.leaves q) q l₀ [] S := ⟨h, by simp⟩
      exact wp.mono (fun _ _ h => h.toHolds) (scheduling_overtaking prvTSNControllerSleep_scheduling hpast)
  | inner =>
      have henter : Holds (Behind root.leaves q) q l₀ ((serviceLoops cfg root).enter .inner S) :=
        ⟨⟨h.inv.fifo, h.inv.accepted_lt, h.inv.current_lt, h.inv.current_inj, h.inv.idle, h.inv.running,
          h.inv.returned⟩, h.grows, h.once⟩
      refine wp.bind (wp.mono ?_ (xNetworkQueueSchedule_overtaking hroot henter))
      intro r S h
      cases r with
      | none => exact wp.ret_of_stable Holds.stable h.toHolds fun _ h => h
      | some q' => exact prvTSNControllerServeQueue_overtaking h.behind.1 h.behind.2

/-- What holds while `C` may still lose one item, or none. -/
def Budget (C : QueueHandle → Prop) (q : QueueHandle) (l₀ : Ledger) : Nat → Service → Prop
  | 0, S => Holds C q l₀ S
  | 1, S => Holds C q l₀ S ∧ ∀ q, C q → S.ledger.popped q = l₀.popped q
  | _, _ => False

theorem Budget.holds {C : QueueHandle → Prop} {n : Nat} {S : Service} (h : Budget C q l₀ n S) : Holds C q l₀ S := by
  match n, h with
  | 0, h => exact h
  | 1, h => exact h.1

theorem Budget.stable {C : QueueHandle → Prop} (n : Nat) : Stable (serviceSem cfg) (Budget C q l₀ n) := by
  intro S S' h hst
  match n, h with
  | 0, h => exact h.step hst
  | 1, h => exact ⟨h.1.step hst, by rw [hst.ledger.2]; exact h.2⟩

theorem Budget.keep {C : QueueHandle → Prop} {n : Nat} {s : System} {l : Ledger} (h : Budget C q l₀ n ⟨s, l⟩)
    {e : Event} {w' : World} (hw : w'.queues = s.w.queues) : Budget C q l₀ n ⟨s.called e w', l⟩ := by
  match n, h with
  | 0, h => exact Holds.keep h hw
  | 1, h => exact ⟨h.1.keep hw, h.2⟩

/-- What is left of a body pops one item at most. -/
theorem atMost_overtaking {C : QueueHandle → Prop} {p : P ControllerLoop}
    (hp : p.AtMost Call.TakesNone Call.Receives 1) {S : Service} (h : LedgerInv S) :
    wp (serviceSem cfg) (HoldsAt C q S.ledger) p (fun _ => Holds C q S.ledger) S := by
  have hstart : Holds C q S.ledger S := ⟨h, .refl _, fun _ => ⟨0, [], Nat.zero_le 1, by simp⟩⟩
  refine wp.mono (fun _ _ ⟨_, h⟩ => h.holds) (hp.wp (I := Budget C q S.ledger) Budget.stable
    ⟨hstart, fun _ _ => rfl⟩ (fun _ _ _ h => h.holds) ?_ ?_)
  · rintro n o ⟨s, l⟩ r ⟨s', l'⟩ ho hn ⟨⟨w', hw, rfl⟩, rfl⟩
    simpa only [ho.receive] using hn.keep (Acts.takesNone ho hw)
  · rintro n o ⟨s, l⟩ r ⟨s', l'⟩ ho hn ⟨⟨w', hw, rfl⟩, rfl⟩
    match n, hn with
    | 0, hn =>
        cases o with
        | xQueueReceive q' t => exact hn.1.pop_first hn.2 hw
        | _ => exact ho.elim

theorem ServiceReachable.inv {s₀ : System} (hs₀ : Starts s₀) {p : P ControllerLoop} {S : Service}
    (hs : ServiceReachable cfg root s₀ (p, S)) : LedgerInv S := by
  have hstart : wp (serviceSem cfg) ServicePre (prvTSNControllerSleep cfg) (fun _ => LedgerInv) ⟨s₀, {}⟩ :=
    scheduling_service prvTSNControllerSleep_scheduling hs₀.ledger
  have hall := Loops.Reach.wp (fun l S h => prvTSNController_service root l h) hs hstart
  cases p with
  | ret l => exact hall S .refl
  | call o k => exact hall.pre_call.1

theorem ServiceReachable.atMost {s₀ : System} {p : P ControllerLoop} {S : Service}
    (hs : ServiceReachable cfg root s₀ (p, S)) : p.AtMost Call.TakesNone Call.Receives 1 :=
  Loops.Reach.atMost (prvTSNController_atMost root) hs (prvTSNController_atMost root .outer)

theorem ServiceReachable.since (hroot : root.WellFormed) {s₀ : System} (hs₀ : Starts s₀) {p₁ p₂ : P ControllerLoop}
    {S₁ S₂ : Service} (h₁ : ServiceReachable cfg root s₀ (p₁, S₁))
    (h₂ : (serviceLoops cfg root).Reach (serviceSem cfg) (p₁, S₁) (p₂, S₂)) :
    Holds (Behind root.leaves q) q S₁.ledger S₂ := by
  have hrest : wp (serviceSem cfg) (HoldsAt (Behind root.leaves q) q S₁.ledger) p₁
      (fun _ => Holds (Behind root.leaves q) q S₁.ledger) S₁ := atMost_overtaking h₁.atMost (h₁.inv hs₀)
  have hall := Loops.Reach.wp (fun l S h => prvTSNController_overtaking hroot l h) h₂ hrest
  cases p₂ with
  | ret l => exact hall S₂ .refl
  | call o k => exact hall.pre_call

end FreeRtosTsn.Scheduler
