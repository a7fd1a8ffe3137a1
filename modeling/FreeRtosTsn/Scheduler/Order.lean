import FreeRtosTsn.Scheduler.Lemmas.Ready

/-!
# The order of service

A round of the schedulers selects the first leaf, from left to right and in depth first order, whose queue is not
empty and whose credit based scheduler, if it has one, is eligible.
-/

namespace FreeRtosTsn.Scheduler

open Lib Kernel

variable {cfg : Config}

structure Leaf where
  cbs : Option SchedulerCBS
  pxQueue : NetworkQueue

def ReadyQueueFunction.cbs : ReadyQueueFunction → Option SchedulerCBS
  | .prvAlwaysReady => none
  | .prvCBSReady pxSched => some pxSched

mutual
/-- The leaves under a node, from left to right. -/
def NetworkNode.leaves : NetworkNode → List Leaf
  | .null => []
  | .mk _ s (some q) _ => [⟨s.fnReady.cbs, q⟩]
  | .mk _ _ none pxNext => leavesList pxNext

def leavesList : List NetworkNode → List Leaf
  | [] => []
  | n :: ns => n.leaves ++ leavesList ns
end

namespace Leaf

variable (w : World) (l : Leaf)

def eligible : Bool :=
  match l.cbs with
  | none => true
  | some c => decide (w.uxNextActivation c.id ≤ wrap32 w.xTickCount)

def nonempty : Bool := !(w.queues l.pxQueue.xQueue).isEmpty

def selectable : Bool := l.nonempty w && l.eligible w

/-- A credit based scheduler that is eligible has something in its queue. -/
def Backlogged : Prop := l.cbs.isSome → l.eligible w = true → l.nonempty w = true

/-- The scheduler of the leaf, if it has one, finds a packet at the head of the queue and can charge it. -/
def Charges : Prop := ∀ c, l.cbs = some c → 0 < c.uxBandwidth ∧ nextPacket w (some l.pxQueue) ≠ none

end Leaf

def firstLeaf (w : World) (ls : List Leaf) : Option Leaf := ls.find? (Leaf.selectable w)

def firstQueue (w : World) (ls : List Leaf) : Option NetworkQueue := (firstLeaf w ls).map (·.pxQueue)

/-- The round selects what it should. -/
def SelectsFirst (cfg : Config) (root : NetworkNode) (w : World) : Prop :=
  ∃ r w', (exec cfg (xNetworkQueueSchedule cfg root)).run w = .ok r w' ∧ r = firstQueue w root.leaves ∧
    (r = none ↔ ∀ l ∈ root.leaves, l.selectable w = false)

/-! ## The round follows the order -/

/-- What the leaves depend on. -/
structure SameLeaves (w w' : World) : Prop where
  queues : w'.queues = w.queues
  uxNextActivation : w'.uxNextActivation = w.uxNextActivation
  xTickCount : w'.xTickCount = w.xTickCount

theorem SameLeaves.refl (w : World) : SameLeaves w w := ⟨rfl, rfl, rfl⟩

theorem SameLeaves.trans {w₁ w₂ w₃ : World} (h : SameLeaves w₁ w₂) (h' : SameLeaves w₂ w₃) : SameLeaves w₁ w₃ :=
  ⟨h'.queues.trans h.queues, h'.uxNextActivation.trans h.uxNextActivation, h'.xTickCount.trans h.xTickCount⟩

theorem SameLeaves.selectable {w w' : World} (h : SameLeaves w w') : Leaf.selectable w' = Leaf.selectable w := by
  funext l
  rw [Leaf.selectable, Leaf.selectable, Leaf.nonempty, Leaf.nonempty, Leaf.eligible, Leaf.eligible, h.queues,
    h.uxNextActivation, h.xTickCount]

theorem SameLeaves.firstLeaf {w w' : World} (h : SameLeaves w w') : firstLeaf w' = firstLeaf w := by
  funext ls
  rw [Scheduler.firstLeaf, Scheduler.firstLeaf, h.selectable]

theorem SameLeaves.backlogged {w w' : World} (h : SameLeaves w w') {l : Leaf} (hl : l.Backlogged w) :
    l.Backlogged w' := by
  rw [Leaf.Backlogged, Leaf.nonempty, Leaf.eligible, h.queues, h.uxNextActivation, h.xTickCount]
  exact hl

theorem SameLeaves.charges {w w' : World} (h : SameLeaves w w') {l : Leaf} : l.Charges w' ↔ l.Charges w := by
  rw [Leaf.Charges, Leaf.Charges, nextPacket, nextPacket, h.queues]

/-- How a traversal ends: at the first leaf that can be selected, where it fails if that leaf cannot charge, or without
one, and then it leaves what the leaves depend on. -/
def Selects (cfg : Config) (p : P (Option NetworkQueue)) (ls : List Leaf) (w : World) : Prop :=
  match firstLeaf w ls with
  | none => ∃ w', (exec cfg p).run w = .ok none w' ∧ SameLeaves w w'
  | some l => (l.Charges w → ∃ w', (exec cfg p).run w = .ok (some l.pxQueue) w') ∧
      (¬l.Charges w → ∃ e w', (exec cfg p).run w = .error e w')

/-- A shaper that is eligible fails or is charged. -/
theorem prvCBSReady_eligible (cfg : Config) {c : SchedulerCBS} {q : NetworkQueue} {w : World}
    (h : w.uxNextActivation c.id ≤ wrap32 w.xTickCount) :
    (Leaf.Charges w ⟨some c, q⟩ →
      ∃ w', (exec cfg (prvCBSReady cfg c (some q))).run w = .ok true w' ∧ w'.queues = w.queues) ∧
    (¬Leaf.Charges w ⟨some c, q⟩ → ∃ e, (exec cfg (prvCBSReady cfg c (some q))).run w = .error e w) := by
  rw [run_prvCBSReady, if_pos h]
  cases hb : nextPacket w (some q) with
  | none => exact ⟨fun hcharges => absurd hb (hcharges c rfl).2, fun _ => ⟨.null, rfl⟩⟩
  | some b =>
      dsimp only
      by_cases hB : c.uxBandwidth = 0
      · rw [if_pos hB]
        exact ⟨fun hcharges => absurd hB (Nat.ne_of_gt (hcharges c rfl).1), fun _ => ⟨.divZero, rfl⟩⟩
      · rw [if_neg hB]
        refine ⟨fun _ => ⟨_, rfl, rfl⟩, fun hno => absurd ?_ hno⟩
        rintro c' ⟨⟩
        exact ⟨Nat.pos_of_ne_zero hB, by simp [hb]⟩

/-- A leaf is selected when its queue is not empty and its scheduler is eligible. -/
theorem leaf_selects {g : SchedulerGeneric} {q : NetworkQueue} {n : Nat} {next : List NetworkNode} {w : World}
    (hbacklog : Leaf.Backlogged w ⟨g.fnReady.cbs, q⟩) :
    Selects cfg (pxNetworkSchedulerCall cfg (.mk n g (some q) next)) [⟨g.fnReady.cbs, q⟩] w := by
  have hfirst : firstLeaf w [⟨g.fnReady.cbs, q⟩] =
      if Leaf.selectable w ⟨g.fnReady.cbs, q⟩ then some ⟨g.fnReady.cbs, q⟩ else none := by
    cases hs : Leaf.selectable w ⟨g.fnReady.cbs, q⟩ <;> simp [firstLeaf, hs]
  rw [Selects, hfirst, pxNetworkSchedulerCall, netschedCallReadyFromNode]
  cases hr : g.fnReady with
  | prvAlwaysReady =>
      have hcharges : Leaf.Charges w ⟨none, q⟩ := fun c hc => nomatch hc
      simp only [Prog.pure_eq, Prog.ret_bind, ↓reduceIte, prvCallTerminal_run]
      cases hq : w.queues q.xQueue with
      | nil =>
          simp only [Leaf.selectable, Leaf.nonempty, hq, List.isEmpty_nil, Bool.not_true, Bool.false_and]
          exact ⟨w, rfl, SameLeaves.refl w⟩
      | cons i is =>
          simp only [Leaf.selectable, Leaf.nonempty, Leaf.eligible, ReadyQueueFunction.cbs, hq, List.isEmpty_cons,
            Bool.not_false, Bool.and_self, ↓reduceIte]
          exact ⟨fun _ => ⟨w, rfl⟩, fun hno => absurd hcharges hno⟩
  | prvCBSReady c =>
      rw [hr] at hbacklog
      simp only [exec_bind]
      by_cases he : w.uxNextActivation c.id ≤ wrap32 w.xTickCount
      · have hne : Leaf.nonempty w ⟨some c, q⟩ = true := hbacklog rfl (decide_eq_true he)
        have hselectable : Leaf.selectable w ⟨some c, q⟩ = true := by
          rw [Leaf.selectable, hne]
          exact decide_eq_true he
        rw [ReadyQueueFunction.cbs, if_pos hselectable]
        obtain ⟨hcharges, hfails⟩ := prvCBSReady_eligible cfg (q := q) he
        refine ⟨fun h => ?_, fun h => ?_⟩
        · obtain ⟨w', hrun, hqueues⟩ := hcharges h
          have hfull : ((w'.queues q.xQueue).isEmpty) = false := by simpa [Leaf.nonempty, hqueues] using hne
          refine ⟨w', ?_⟩
          rw [hrun]
          simp [prvCallTerminal_run, hfull]
        · obtain ⟨e, hrun⟩ := hfails h
          exact ⟨e, w, by rw [hrun]⟩
      · have hno : Leaf.selectable w ⟨some c, q⟩ = false := by simp [Leaf.selectable, Leaf.eligible, he]
        rw [ReadyQueueFunction.cbs, hno, run_prvCBSReady, if_neg he]
        exact ⟨_, rfl, rfl, rfl, rfl⟩

theorem firstLeaf_append (w : World) (ls ls' : List Leaf) :
    firstLeaf w (ls ++ ls') = (firstLeaf w ls).or (firstLeaf w ls') := by
  rw [firstLeaf, firstLeaf, firstLeaf, List.find?_append]

/-- A second traversal goes on where the first found no leaf. -/
theorem Selects.or {p : P (Option NetworkQueue)} {f : P (Option NetworkQueue)} {ls ls' : List Leaf} {w : World}
    (h : Selects cfg p ls w) (hf : ∀ w', SameLeaves w w' → Selects cfg f ls' w') :
    Selects cfg (p >>= fun r => match r with | none => f | some q => .ret (some q)) (ls ++ ls') w := by
  rw [Selects, firstLeaf_append]
  rw [Selects] at h
  cases hl : firstLeaf w ls with
  | some l =>
      rw [hl] at h
      refine ⟨fun hcharges => ?_, fun hno => ?_⟩
      · obtain ⟨w', hrun⟩ := h.1 hcharges
        exact ⟨w', by rw [exec_bind, hrun]; rfl⟩
      · obtain ⟨e, w', hrun⟩ := h.2 hno
        exact ⟨e, w', by rw [exec_bind, hrun]⟩
  | none =>
      rw [hl] at h
      obtain ⟨w₁, hrun, hsame⟩ := h
      have hrest := hf w₁ hsame
      rw [Selects, hsame.firstLeaf] at hrest
      simp only [Option.none_or, exec_bind, hrun]
      cases hl' : firstLeaf w ls' with
      | none =>
          rw [hl'] at hrest
          obtain ⟨w₂, hrun₂, hsame₂⟩ := hrest
          exact ⟨w₂, hrun₂, hsame.trans hsame₂⟩
      | some l =>
          rw [hl'] at hrest
          dsimp only at hrest ⊢
          rwa [hsame.charges] at hrest

mutual
theorem pxNetworkSchedulerCall_selects : (n : NetworkNode) → n.WellFormed → {w : World} →
    (∀ l ∈ n.leaves, l.Backlogged w) → Selects cfg (pxNetworkSchedulerCall cfg n) n.leaves w
  | .null, hn, _, _ => hn.elim
  | .mk n g (some q) next, _, w, hbacklog => by
      simp only [NetworkNode.leaves, List.mem_singleton, forall_eq] at hbacklog ⊢
      exact leaf_selects hbacklog
  | .mk n g none next, hn, w, hbacklog => by
      obtain ⟨hlen, hr, hfirst, hnext⟩ := hn
      simp only [NetworkNode.leaves] at hbacklog ⊢
      simp only [pxNetworkSchedulerCall, netschedCallReadyFromNode, hr, Prog.pure_eq, Prog.ret_bind, ↓reduceIte]
      cases hsel : g.fnSelect with
      | prvPrioritySelect => exact prvPrioritySelect_selects n next hlen hnext hbacklog
      | prvSelectFirst => exact prvSelectFirst_selects next (hfirst hsel) hnext hbacklog

theorem prvSelectFirst_selects : (ns : List NetworkNode) → ns.length = 1 → WellFormedList ns → {w : World} →
    (∀ l ∈ leavesList ns, l.Backlogged w) → Selects cfg (prvSelectFirst cfg ns) (leavesList ns) w
  | [], hl, _, _, _ => by simp at hl
  | child :: ns, hl, hn, w, hbacklog => by
      obtain rfl : ns = [] := by simpa using hl
      simp only [leavesList, List.append_nil, prvSelectFirst] at hbacklog ⊢
      exact pxNetworkSchedulerCall_selects child hn.1 hbacklog

theorem prvPrioritySelect_selects : (n : Nat) → (ns : List NetworkNode) → n = ns.length → WellFormedList ns →
    {w : World} → (∀ l ∈ leavesList ns, l.Backlogged w) → Selects cfg (prvPrioritySelect cfg n ns) (leavesList ns) w
  | 0, [], _, _, w, _ => by
      simp only [prvPrioritySelect, leavesList]
      exact ⟨w, rfl, SameLeaves.refl w⟩
  | n + 1, child :: ns, hl, hn, w, hbacklog => by
      simp only [leavesList, List.mem_append] at hbacklog ⊢
      have hchild := pxNetworkSchedulerCall_selects child hn.1 fun l hl => hbacklog l (Or.inl hl)
      refine Eq.mp (congrArg (Selects cfg · _ w) ?_) (hchild.or (f := prvPrioritySelect cfg n ns) fun w' hsame =>
        prvPrioritySelect_selects n ns (by simpa using hl) hn.2 fun l hl => hsame.backlogged (hbacklog l (Or.inr hl)))
      simp only [prvPrioritySelect]
      refine congrArg _ (funext fun r => ?_)
      cases r <;> rfl
end

theorem firstQueue_eq_none {w : World} {ls : List Leaf} :
    firstQueue w ls = none ↔ ∀ l ∈ ls, l.selectable w = false := by
  simp [firstQueue, firstLeaf]

end FreeRtosTsn.Scheduler
