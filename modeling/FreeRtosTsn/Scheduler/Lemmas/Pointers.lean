import FreeRtosTsn.Scheduler.Pointers
import FreeRtosTsn.Scheduler.Lemmas.Linking

/-!
# What the functions that build the tree keep
-/

namespace FreeRtosTsn.Scheduler.Pointers

open Lib Kernel Relation

/-! ## Memory -/

namespace Nodes

variable {h : Nodes} {a b c : Addr} {i : Nat}

theorem slots_some {node : NodeCell} (ha : h.nodes a = some node) : h.slots a = node.block.pxNext.toList := by
  simp [slots, ha]

theorem slots_none (ha : h.nodes a = none) : h.slots a = [] := by
  simp [slots, ha]

theorem Slot.live (hs : h.Slot a i c) : (h.nodes a).isSome := by
  cases ha : h.nodes a with
  | none => simp [Slot, slots_none ha] at hs
  | some node => rfl

theorem slots_setNode_other (node : Option NodeCell) (hb : b ≠ a) : (h.setNode a node).slots b = h.slots b := by
  simp [slots, setNode, hb]

theorem slot_setNode {node : NodeCell} :
    (h.setNode a (some node)).Slot b i c ↔
      if b = a then node.block.pxNext.toList[i]? = some (some c) else h.Slot b i c := by
  by_cases hb : b = a
  · subst hb
    simp [Slot, slots, setNode]
  · simp [Slot, slots_setNode_other (some node) hb, hb]

theorem live_setNode {node : NodeCell} (hb : (h.nodes b).isSome) : ((h.setNode a (some node)).nodes b).isSome := by
  by_cases hba : b = a
  · simp [setNode, hba]
  · simpa [setNode, hba] using hb

end Nodes

/-! ## Inversions -/

section Inversions

variable {s s' : Setup}

theorem nonNull_inv {α : Type} {p : Option α} {a : α} (h : (nonNull p : H α).run s = .ok a s') : p = some a ∧ s' = s := by
  cases p with
  | none => cases h
  | some b =>
      cases h
      exact ⟨rfl, rfl⟩

theorem loadNode_inv {a : Addr} {node : NodeCell} (h : (loadNode a).run s = .ok node s') :
    s.h.nodes a = some node ∧ s' = s := by
  rw [loadNode, run_bind_ok (EStateM.run_get s)] at h
  cases ha : s.h.nodes a with
  | none =>
      rw [ha] at h
      cases h
  | some node =>
      rw [ha] at h
      cases h
      exact ⟨rfl, rfl⟩

theorem loadScheduler_inv {p : Addr} {sched : SchedulerCell} (h : (loadScheduler p).run s = .ok sched s') :
    s.h.schedulers p = some sched ∧ s' = s := by
  rw [loadScheduler, run_bind_ok (EStateM.run_get s)] at h
  cases hp : s.h.schedulers p with
  | none =>
      rw [hp] at h
      cases h
  | some sched =>
      rw [hp] at h
      cases h
      exact ⟨rfl, rfl⟩

theorem pvPortMalloc_inv {r : Option Addr} (h : pvPortMalloc.run s = .ok r s') :
    s' = { s with w := s.w.tick } ∧ (∀ a, r = some a → a = s.w.calls) := by
  cases h
  refine ⟨rfl, fun a ha => ?_⟩
  split at ha
  · cases ha
    rfl
  · cases ha

/-- Code on a block that was there. -/
theorem onBlock_inv {a : Addr} {f : (uxSpace : Nat) → NodeM NetworkQueue Addr uxSpace Bool} {r : Bool}
    (h : (onBlock a f).run s = .ok r s') : ∃ node block, s.h.nodes a = some node ∧
      (f node.uxSpace).run node.block = .ok r block ∧
      s' = { s with h := s.h.setNode a (some { node with block := block }) } := by
  obtain ⟨node, s₁, hload, hrest⟩ := run_bind_inv h
  obtain ⟨hnode, rfl⟩ := loadNode_inv hload
  cases hf : (f node.uxSpace).run node.block with
  | error e block =>
      rw [hf] at hrest
      cases hrest
  | ok r' block =>
      rw [hf] at hrest
      cases hrest
      exact ⟨node, block, hnode, hf, rfl⟩

end Inversions

/-! ## Blocks -/

/-- A node whose slots are those of its children. -/
structure NodeCell.Sized (node : NodeCell) : Prop where
  uxSpace : sizeofNetworkNode ≤ node.uxSpace
  ucNumChildren : node.block.ucNumChildren.toNat = node.block.pxNext.toList.length

/-- The slots as they were, and `pxChild` in a slot of its own if it is not null. -/
structure Relinks {uxSpace : Nat} (pxChild : Option Addr) (uxPosition : Nat)
    (block block' : NodeBlock NetworkQueue Addr uxSpace) : Prop where
  ucNumChildren : block'.ucNumChildren = block.ucNumChildren
  slots : ∀ i c, block'.pxNext.toList[i]? = some (some c) →
    block.pxNext.toList[i]? = some (some c) ∨ i = uxPosition ∧ pxChild = some c

section Relinks

variable {uxSpace uxPosition : Nat} {pxChild : Option Addr} {block block' : NodeBlock NetworkQueue Addr uxSpace}
  {r : Bool}

theorem Relinks.refl (block : NodeBlock NetworkQueue Addr uxSpace) : Relinks pxChild uxPosition block block :=
  ⟨rfl, fun _ _ h => .inl h⟩

theorem Relinks.set (hlt : uxPosition < (uxSpace - sizeofNetworkNode) / sizeofPointer) :
    Relinks pxChild uxPosition block { block with pxNext := block.pxNext.set uxPosition pxChild hlt } := by
  refine ⟨rfl, fun i c hi => ?_⟩
  rw [Vector.toList_set, List.getElem?_set] at hi
  split at hi
  · rename_i heq
    split at hi
    · exact .inr ⟨heq.symm, Option.some.inj hi⟩
    · cases hi
  · exact .inl hi

theorem linkQueue_relinks {pxQueue : NetworkQueue}
    (h : (NodeBlock.xNetworkSchedulerLinkQueue pxQueue).run block = .ok r block') : Relinks none 0 block block' := by
  rw [NodeBlock.run_xNetworkSchedulerLinkQueue] at h
  split at h
  · cases h
  · cases h
    exact ⟨rfl, fun _ _ h => .inl h⟩

theorem prvUnlinkQueue_relinks (h : (prvUnlinkQueue uxSpace).run block = .ok r block') :
    Relinks none 0 block block' := by
  obtain ⟨_, block₁, haccess, h⟩ := run_bind_inv h
  rw [NodeBlock.run_accessQueue] at haccess
  split at haccess
  · cases haccess
  · cases haccess
    cases h
    exact ⟨rfl, fun _ _ h => .inl h⟩

theorem linkChild_relinks {c : Addr}
    (h : (NodeBlock.xNetworkSchedulerLinkChild c uxPosition).run block = .ok r block') :
    Relinks (some c) uxPosition block block' := by
  rw [NodeBlock.run_xNetworkSchedulerLinkChild] at h
  repeat' split at h
  all_goals cases h
  · exact .set _
  · exact .refl _
  · exact .refl _

theorem prvUnlinkChild_relinks (h : (prvUnlinkChild uxPosition uxSpace).run block = .ok r block') :
    Relinks none uxPosition block block' := by
  rw [prvUnlinkChild, run_bind_ok (EStateM.run_get _)] at h
  split at h
  · obtain ⟨_, block₁, haccess, h⟩ := run_bind_inv h
    rw [NodeBlock.run_accessQueue] at haccess
    split at haccess
    · cases haccess
    · cases haccess
      split at h
      · split at h
        · cases h
          exact .set _
        · cases h
      · cases h
        exact .refl _
  · cases h
    exact .refl _

end Relinks

/-! ## The invariant -/

/-- The pointers make up trees, and each scheduler belongs to one node. -/
structure Wired (s : Setup) : Prop where
  acyclic : Acyclic s.h.Child
  oneSlot : ∀ a b c i j, s.h.Slot a i c → s.h.Slot b j c → a = b ∧ i = j
  linked : ∀ a c, s.h.Child a c → (s.h.nodes c).isSome
  root : s.h.Valid s.h.pxNetworkQueueRoot
  sized : ∀ a node, s.h.nodes a = some node → node.Sized
  owned : ∀ a node p, s.h.nodes a = some node → node.pvScheduler = some p →
    ∃ sched, s.h.schedulers p = some sched ∧ sched.pxOwner = a
  newNodes : ∀ a, s.w.calls ≤ a → s.h.nodes a = none
  newSchedulers : ∀ p, s.w.calls ≤ p → s.h.schedulers p = none

theorem Setup.Starts.wired {s : Setup} (hs : s.Starts) : Wired s := by
  have hslot : ∀ a i c, ¬s.h.Slot a i c := fun a i c h => by simpa [hs.nodes] using h.live
  have hchild : ∀ a c, ¬s.h.Child a c := fun a c ⟨i, h⟩ => hslot a i c h
  refine ⟨?_, fun a b c i j h => (hslot a i c h).elim, fun a c h => (hchild a c h).elim, ?_, ?_, ?_, ?_, ?_⟩
  · intro a ha
    obtain ⟨b, _, hb⟩ := TransGen.tail'_iff.mp ha
    exact hchild _ _ hb
  · simp [Nodes.Valid, hs.pxNetworkQueueRoot]
  · simp [hs.nodes]
  · simp [hs.nodes]
  · simp [hs.nodes]
  · simp [hs.schedulers]

section Wired

variable {s : Setup}

theorem Wired.later (hs : Wired s) {w' : World} (hw : s.w.calls ≤ w'.calls) : Wired { s with w := w' } where
  __ := hs
  newNodes a ha := hs.newNodes a (hw.trans ha)
  newSchedulers p hp := hs.newSchedulers p (hw.trans hp)

/-- What is written to a node with the schedulers in place. -/
theorem Wired.setNode (hs : Wired s) {a : Addr} {node : NodeCell} (pxChild : Option Addr) (uxPosition : Nat)
    (ha : a < s.w.calls) (hsized : node.Sized)
    (hslots : ∀ i c, node.block.pxNext.toList[i]? = some (some c) →
      s.h.Slot a i c ∨ i = uxPosition ∧ pxChild = some c)
    (hchild : ∀ c, pxChild = some c →
      (s.h.nodes c).isSome ∧ (∀ b, ¬s.h.Child b c) ∧ ¬ReflTransGen s.h.Child c a)
    (howned : ∀ p, node.pvScheduler = some p → ∃ sched, s.h.schedulers p = some sched ∧ sched.pxOwner = a) :
    Wired { s with h := s.h.setNode a (some node) } := by
  -- A slot of the new heap is one of the old heap, or the new one.
  have hslot : ∀ {b i c}, (s.h.setNode a (some node)).Slot b i c →
      s.h.Slot b i c ∨ b = a ∧ i = uxPosition ∧ pxChild = some c := by
    intro b i c h
    rw [Nodes.slot_setNode] at h
    split at h
    · rename_i hb
      subst hb
      exact (hslots i c h).imp_right fun h => ⟨rfl, h⟩
    · exact .inl h
  refine ⟨?_, ?_, ?_, ?_, ?_, ?_, ?_, ?_⟩
  · cases pxChild with
    | none => exact hs.acyclic.mono fun b c ⟨i, h⟩ => ⟨i, (hslot h).elim id fun h => nomatch h.2.2⟩
    | some c =>
        refine hs.acyclic.link (hchild c rfl).2.2 fun b d ⟨i, h⟩ => ?_
        exact (hslot h).imp (⟨i, ·⟩) fun h => ⟨h.1, (Option.some.inj h.2.2).symm⟩
  · intro b b' c i j hi hj
    rcases hslot hi with hold | ⟨hb, hi', hc⟩ <;> rcases hslot hj with hold' | ⟨hb', hj', hc'⟩
    · exact hs.oneSlot b b' c i j hold hold'
    · exact ((hchild c hc').2.1 b ⟨i, hold⟩).elim
    · exact ((hchild c hc).2.1 b' ⟨j, hold'⟩).elim
    · exact ⟨hb.trans hb'.symm, hi'.trans hj'.symm⟩
  · rintro b c ⟨i, h⟩
    refine Nodes.live_setNode ?_
    exact (hslot h).elim (fun h => hs.linked b c ⟨i, h⟩) fun h => (hchild c h.2.2).1
  · exact fun r hr => Nodes.live_setNode (hs.root r hr)
  · intro b cell hb
    by_cases hba : b = a
    · subst hba
      simp only [Nodes.setNode, Function.update_self, Option.some.injEq] at hb
      exact hb ▸ hsized
    · simp only [Nodes.setNode, Function.update_of_ne hba] at hb
      exact hs.sized b cell hb
  · intro b cell p hb hp
    by_cases hba : b = a
    · subst hba
      simp only [Nodes.setNode, Function.update_self, Option.some.injEq] at hb
      exact howned p (hb ▸ hp)
    · simp only [Nodes.setNode, Function.update_of_ne hba] at hb
      exact hs.owned b cell p hb hp
  · intro b hb
    simpa [Nodes.setNode, Nat.ne_of_gt (Nat.lt_of_lt_of_le ha hb)] using hs.newNodes b hb
  · exact hs.newSchedulers

theorem Wired.lt_calls (hs : Wired s) {a : Addr} {node : NodeCell} (hnode : s.h.nodes a = some node) :
    a < s.w.calls := by
  by_contra hge
  rw [hs.newNodes a (Nat.not_lt.mp hge)] at hnode
  cases hnode

theorem Wired.lt_calls_scheduler (hs : Wired s) {p : Addr} {sched : SchedulerCell}
    (hsched : s.h.schedulers p = some sched) : p < s.w.calls := by
  by_contra hge
  rw [hs.newSchedulers p (Nat.not_lt.mp hge)] at hsched
  cases hsched

theorem Wired.freeNode (hs : Wired s) {a : Addr} (hchild : ∀ b, ¬s.h.Child b a)
    (hroot : s.h.pxNetworkQueueRoot ≠ some a) : Wired { s with h := s.h.setNode a none } := by
  have hother : ∀ {b node}, (s.h.setNode a none).nodes b = some node → b ≠ a ∧ s.h.nodes b = some node := by
    intro b node hb
    by_cases hba : b = a
    · simp [Nodes.setNode, hba] at hb
    · exact ⟨hba, by simpa [Nodes.setNode, hba] using hb⟩
  have hlive : ∀ {b}, b ≠ a → (s.h.nodes b).isSome → ((s.h.setNode a none).nodes b).isSome := by
    intro b hba hb
    simpa [Nodes.setNode, hba] using hb
  have hslot : ∀ {b i c}, (s.h.setNode a none).Slot b i c → s.h.Slot b i c := by
    intro b i c h
    obtain ⟨node, hb⟩ := Option.isSome_iff_exists.mp h.live
    rwa [Nodes.Slot, Nodes.slots_setNode_other none (hother hb).1] at h
  refine ⟨hs.acyclic.mono fun b c ⟨i, h⟩ => ⟨i, hslot h⟩, ?_, ?_, ?_, ?_, ?_, ?_, hs.newSchedulers⟩
  · exact fun b b' c i j hi hj => hs.oneSlot b b' c i j (hslot hi) (hslot hj)
  · rintro b c ⟨i, h⟩
    refine hlive ?_ (hs.linked b c ⟨i, hslot h⟩)
    rintro rfl
    exact hchild b ⟨i, hslot h⟩
  · intro r hr
    refine hlive ?_ (hs.root r hr)
    rintro rfl
    exact hroot hr
  · exact fun b node hb => hs.sized b node (hother hb).2
  · exact fun b node p hb => hs.owned b node p (hother hb).2
  · intro b hb
    by_cases hba : b = a
    · simp [Nodes.setNode, hba]
    · simpa [Nodes.setNode, hba] using hs.newNodes b hb

theorem Wired.setScheduler (hs : Wired s) {p : Addr} (sched : Option SchedulerCell) (hp : p < s.w.calls)
    (howned : ∀ a node, s.h.nodes a = some node → node.pvScheduler = some p →
      ∃ c, sched = some c ∧ c.pxOwner = a) : Wired { s with h := s.h.setScheduler p sched } where
  __ := hs
  owned a node q ha hq := by
    by_cases hqp : q = p
    · subst hqp
      simpa [Nodes.setScheduler] using howned a node ha hq
    · simpa [Nodes.setScheduler, hqp] using hs.owned a node q ha hq
  newSchedulers q hq := by
    simpa [Nodes.setScheduler, Nat.ne_of_gt (Nat.lt_of_lt_of_le hp hq)] using hs.newSchedulers q hq

/-- The scheduler of a node changes. -/
theorem Wired.setOwned (hs : Wired s) {a : Addr} {node : NodeCell} (hnode : s.h.nodes a = some node)
    (pvScheduler : Option Addr)
    (howned : ∀ p, pvScheduler = some p → ∃ sched, s.h.schedulers p = some sched ∧ sched.pxOwner = a) :
    Wired { s with h := s.h.setNode a (some { node with pvScheduler := pvScheduler }) } := by
  have hsized := hs.sized a node hnode
  refine hs.setNode none 0 (hs.lt_calls hnode) ⟨hsized.1, hsized.2⟩ ?_ nofun howned
  exact fun i c hi => .inl (by rwa [Nodes.Slot, Nodes.slots_some hnode])

/-- The functions of a scheduler change. -/
theorem Wired.setFunctions (hs : Wired s) {p : Addr} {sched : SchedulerCell}
    (hsched : s.h.schedulers p = some sched) (sched' : SchedulerCell) (howner : sched'.pxOwner = sched.pxOwner) :
    Wired { s with h := s.h.setScheduler p (some sched') } := by
  refine hs.setScheduler _ (hs.lt_calls_scheduler hsched) fun a node ha hp => ⟨sched', rfl, ?_⟩
  obtain ⟨c, hc, hca⟩ := hs.owned a node p ha hp
  cases hsched.symm.trans hc
  exact howner.trans hca

theorem Wired.setRoot (hs : Wired s) {pxNode : Option Addr} (h : s.h.Valid pxNode) :
    Wired { s with h := { s.h with pxNetworkQueueRoot := pxNode } } where
  __ := hs
  root := h

end Wired

/-! ## The functions -/

section Functions

variable {s s' : Setup}

theorem Wired.pvPortMalloc (hs : Wired s) {r : Option Addr} (h : pvPortMalloc.run s = .ok r s') : Wired s' := by
  obtain ⟨rfl, -⟩ := pvPortMalloc_inv h
  exact hs.later (Nat.le_succ _)

theorem sized_create {n : Nat} (hn : n < 256) {pvPortMalloc : Nat → Bool}
    {block : NodeBlock NetworkQueue Addr (NodeBlock.uxSpaceRequired n)}
    (h : NodeBlock.pxNetworkNodeCreate pvPortMalloc n = .ok (some block)) :
    NodeCell.Sized ⟨_, block, none⟩ ∧ ∀ (i : Nat) (c : Addr), block.pxNext.toList[i]? ≠ some (some c) := by
  obtain ⟨hcreated, -, hnone⟩ := NodeBlock.Created.of_create h
  have hspace : NodeBlock.uxSpaceRequired n = 12 + n * 4 := by
    simp only [NodeBlock.uxSpaceRequired, wrap32, sizeofNetworkNode, sizeofPointer]
    omega
  refine ⟨⟨?_, ?_⟩, fun i c hi => hnone ?_⟩
  · simp [hspace, sizeofNetworkNode]
  · have hslots : (NodeBlock.uxSpaceRequired n - sizeofNetworkNode) / sizeofPointer = n := by
      simp [hspace, sizeofNetworkNode, sizeofPointer]
    rw [hcreated.ucNumChildren, Vector.length_toList]
    exact (Nat.mod_eq_of_lt hn).trans hslots.symm
  · exact List.any_eq_true.mpr ⟨some c, List.mem_of_getElem? hi, rfl⟩

theorem Wired.pxNetworkNodeCreate (hs : Wired s) {n : Nat} (hn : n < 256) {r : Option Addr}
    (h : (pxNetworkNodeCreate n).run s = .ok r s') : Wired s' := by
  obtain ⟨pxNode, s₁, hmalloc, hrest⟩ := run_bind_inv h
  have hs₁ := hs.pvPortMalloc hmalloc
  obtain ⟨rfl, hfresh⟩ := pvPortMalloc_inv hmalloc
  split at hrest
  · cases hrest
  · rename_i block a hblock
    cases hrest
    obtain ⟨hsized, hslots⟩ := sized_create hn hblock
    refine hs₁.setNode none 0 ?_ hsized ?_ nofun nofun
    · exact hfresh a rfl ▸ Nat.lt_succ_self _
    · exact fun i c hi => absurd hi (hslots i c)
  · cases hrest
    exact hs₁

theorem Wired.vNetworkNodeRelease (hs : Wired s) {pxNode : Option Addr}
    (hallowed : (NodeCall.vNetworkNodeRelease pxNode).Allowed s.h)
    (h : (vNetworkNodeRelease pxNode).run s = .ok () s') : Wired s' := by
  cases pxNode with
  | none =>
      cases h
      exact hs
  | some a =>
      obtain ⟨node, s₁, hload, hrest⟩ := run_bind_inv h
      obtain ⟨-, rfl⟩ := loadNode_inv hload
      cases hrest
      exact hs.freeNode hallowed.1 hallowed.2

theorem Wired.pvNetworkSchedulerGenericCreate (hs : Wired s) {pxNode r : Option Addr} {usSize : Nat}
    (h : (pvNetworkSchedulerGenericCreate pxNode usSize).run s = .ok r s') : Wired s' := by
  rw [Pointers.pvNetworkSchedulerGenericCreate] at h
  split at h
  · obtain ⟨pvSched, s₁, hmalloc, h₁⟩ := run_bind_inv h
    have hs₁ := hs.pvPortMalloc hmalloc
    obtain ⟨rfl, hfresh⟩ := pvPortMalloc_inv hmalloc
    obtain ⟨pxSched, s₂, hsched, h₂⟩ := run_bind_inv h₁
    obtain ⟨rfl, rfl⟩ := nonNull_inv hsched
    obtain ⟨a, s₃, hnonnull, h₃⟩ := run_bind_inv h₂
    obtain ⟨rfl, rfl⟩ := nonNull_inv hnonnull
    obtain ⟨node, s₄, hload, h₄⟩ := run_bind_inv h₃
    obtain ⟨hnode, rfl⟩ := loadNode_inv hload
    obtain rfl := hfresh pxSched rfl
    cases h₄
    -- No node has the address yet.
    have hnew : ∀ b cell, s.h.nodes b = some cell → cell.pvScheduler ≠ some s.w.calls := by
      intro b cell hb hp
      obtain ⟨sched, hsome, -⟩ := hs.owned b cell _ hb hp
      rw [hs.newSchedulers _ (Nat.le_refl _)] at hsome
      cases hsome
    have hs₅ := hs₁.setScheduler (some ⟨a, .prvSelectFirst, .prvAlwaysReady⟩) (Nat.lt_succ_self s.w.calls)
      fun b cell hb hp => absurd hp (hnew b cell hb)
    refine hs₅.setOwned hnode _ ?_
    rintro p ⟨⟩
    exact ⟨_, Function.update_self .., rfl⟩
  · cases h
    exact hs

theorem Wired.vNetworkSchedulerGenericRelease (hs : Wired s) {pvSched : Option Addr}
    (h : (vNetworkSchedulerGenericRelease pvSched).run s = .ok () s') : Wired s' := by
  obtain ⟨p, s₁, hnonnull, h₁⟩ := run_bind_inv h
  obtain ⟨rfl, rfl⟩ := nonNull_inv hnonnull
  obtain ⟨sched, s₂, hsched, h₂⟩ := run_bind_inv h₁
  obtain ⟨hp, rfl⟩ := loadScheduler_inv hsched
  obtain ⟨node, s₃, hload, h₃⟩ := run_bind_inv h₂
  obtain ⟨hnode, rfl⟩ := loadNode_inv hload
  cases h₃
  have hs₄ := hs.setOwned hnode none nofun
  refine hs₄.setScheduler none (hs.lt_calls_scheduler hp) fun b cell hb hcell => ?_
  -- The node that had the scheduler is its owner, which has none now.
  by_cases hbo : b = sched.pxOwner
  · subst hbo
    simp only [Nodes.setNode, Function.update_self, Option.some.injEq] at hb
    subst hb
    cases hcell
  · simp only [Nodes.setNode, Function.update_of_ne hbo] at hb
    obtain ⟨sched', hsome, howner⟩ := hs.owned b cell p hb hcell
    cases hp.symm.trans hsome
    exact absurd howner.symm hbo

theorem Wired.pxNetworkNodeCreatePrio (hs : Wired s) {n : Nat} (hn : n < 256) {r : Option Addr}
    (h : (pxNetworkNodeCreatePrio n).run s = .ok r s') : Wired s' := by
  obtain ⟨pxNode, s₁, hcreate, h₁⟩ := run_bind_inv h
  obtain ⟨pvSched, s₂, hgeneric, h₂⟩ := run_bind_inv h₁
  have hs₂ := (hs.pxNetworkNodeCreate hn hcreate).pvNetworkSchedulerGenericCreate hgeneric
  obtain ⟨pxSched, s₃, hnonnull, h₃⟩ := run_bind_inv h₂
  obtain ⟨rfl, rfl⟩ := nonNull_inv hnonnull
  obtain ⟨sched, s₄, hload, h₄⟩ := run_bind_inv h₃
  obtain ⟨hsched, rfl⟩ := loadScheduler_inv hload
  cases h₄
  exact hs₂.setFunctions hsched _ rfl

theorem Wired.pxNetworkNodeCreateFIFO (hs : Wired s) {r : Option Addr}
    (h : pxNetworkNodeCreateFIFO.run s = .ok r s') : Wired s' := by
  obtain ⟨pxNode, s₁, hcreate, h₁⟩ := run_bind_inv h
  obtain ⟨pvSched, s₂, hgeneric, h₂⟩ := run_bind_inv h₁
  cases h₂
  exact (hs.pxNetworkNodeCreate (by decide) hcreate).pvNetworkSchedulerGenericCreate hgeneric

theorem Wired.pxNetworkNodeCreateCBS (hs : Wired s) {uxBandwidth uxMaxCredit : Nat} {r : Option Addr}
    (h : (pxNetworkNodeCreateCBS uxBandwidth uxMaxCredit).run s = .ok r s') : Wired s' := by
  obtain ⟨pxNode, s₁, hcreate, h₁⟩ := run_bind_inv h
  obtain ⟨pvSched, s₂, hgeneric, h₂⟩ := run_bind_inv h₁
  have hs₂ := (hs.pxNetworkNodeCreate (by decide) hcreate).pvNetworkSchedulerGenericCreate hgeneric
  obtain ⟨pxSched, s₃, hnonnull, h₃⟩ := run_bind_inv h₂
  obtain ⟨rfl, rfl⟩ := nonNull_inv hnonnull
  obtain ⟨sched, s₄, hload, h₄⟩ := run_bind_inv h₃
  obtain ⟨hsched, rfl⟩ := loadScheduler_inv hload
  cases h₄
  have hs₅ := hs₂.setFunctions hsched { sched with fnReady := .prvCBSReady uxBandwidth uxMaxCredit } rfl
  exact hs₅.later (Nat.le_refl _)

/-- Code on the block of a node that writes a slot of its own. -/
theorem Wired.onBlock (hs : Wired s) {a : Addr} {f : (uxSpace : Nat) → NodeM NetworkQueue Addr uxSpace Bool} {r : Bool}
    {pxChild : Option Addr} {uxPosition : Nat}
    (hf : ∀ {uxSpace : Nat} {block block' : NodeBlock NetworkQueue Addr uxSpace} {r : Bool},
      (f uxSpace).run block = .ok r block' → Relinks pxChild uxPosition block block')
    (hchild : ∀ c, pxChild = some c →
      (s.h.nodes c).isSome ∧ (∀ b, ¬s.h.Child b c) ∧ ¬ReflTransGen s.h.Child c a)
    (h : (onBlock a f).run s = .ok r s') : Wired s' := by
  obtain ⟨node, block, hnode, hrun, rfl⟩ := onBlock_inv h
  have hrelinks := hf hrun
  have hsized := hs.sized a node hnode
  refine hs.setNode pxChild uxPosition (hs.lt_calls hnode) ⟨hsized.uxSpace, ?_⟩ ?_ hchild fun p =>
    hs.owned a node p hnode
  · have hlen := hsized.ucNumChildren
    rw [Vector.length_toList] at hlen ⊢
    exact (congrArg UInt8.toNat hrelinks.ucNumChildren).trans hlen
  · exact fun i c hi => (hrelinks.slots i c hi).imp_left fun h => by rwa [Nodes.Slot, Nodes.slots_some hnode]

theorem Wired.xNetworkSchedulerLinkQueue (hs : Wired s) {pxNode : Option Addr} {pxQueue : Option NetworkQueue} {r : Bool}
    (h : (xNetworkSchedulerLinkQueue pxNode pxQueue).run s = .ok r s') : Wired s' := by
  cases pxNode with
  | none =>
      cases h
      exact hs
  | some a =>
      cases pxQueue with
      | none => exact hs.onBlock prvUnlinkQueue_relinks nofun h
      | some q => exact hs.onBlock linkQueue_relinks nofun h

theorem Wired.xNetworkSchedulerLinkChild (hs : Wired s) {pxNode pxChild : Option Addr} {uxPosition : Nat} {r : Bool}
    (hallowed : (NodeCall.xNetworkSchedulerLinkChild pxNode pxChild uxPosition).Allowed s.h)
    (h : (xNetworkSchedulerLinkChild pxNode pxChild uxPosition).run s = .ok r s') : Wired s' := by
  cases pxNode with
  | none =>
      cases h
      exact hs
  | some a =>
      cases pxChild with
      | none => exact hs.onBlock prvUnlinkChild_relinks nofun h
      | some c =>
          refine hs.onBlock linkChild_relinks ?_ h
          rintro c ⟨⟩
          exact hallowed

theorem Wired.xNetworkQueueAssignRoot (hs : Wired s) {pxNode : Option Addr} {r : Bool}
    (hallowed : (NodeCall.xNetworkQueueAssignRoot pxNode).Allowed s.h)
    (h : (xNetworkQueueAssignRoot pxNode).run s = .ok r s') : Wired s' := by
  rw [Pointers.xNetworkQueueAssignRoot, run_bind_ok (EStateM.run_get s)] at h
  split at h
  · cases h
    refine hs.setRoot ?_
    rintro a rfl
    exact hallowed
  · cases h
    exact hs

end Functions

/-! ## Runs -/

theorem discard_inv {α : Type} {x : H α} {s s' : Setup} (h : (discard x).run s = .ok () s') :
    ∃ a, x.run s = .ok a s' := by
  obtain ⟨a, s₁, hx, hrest⟩ := run_bind_inv (f := fun _ => pure ()) h
  cases hrest
  exact ⟨a, hx⟩

theorem Wired.call {s s' : Setup} (hs : Wired s) {c : NodeCall} (hallowed : c.Allowed s.h)
    (h : c.run.run s = .ok () s') : Wired s' := by
  cases c with
  | vNetworkNodeRelease pxNode => exact hs.vNetworkNodeRelease hallowed h
  | vNetworkSchedulerGenericRelease pvSched => exact hs.vNetworkSchedulerGenericRelease h
  | pxNetworkNodeCreate n => exact hs.pxNetworkNodeCreate hallowed (discard_inv h).choose_spec
  | pvNetworkSchedulerGenericCreate pxNode usSize =>
      exact hs.pvNetworkSchedulerGenericCreate (discard_inv h).choose_spec
  | pxNetworkNodeCreatePrio n => exact hs.pxNetworkNodeCreatePrio hallowed (discard_inv h).choose_spec
  | pxNetworkNodeCreateFIFO => exact hs.pxNetworkNodeCreateFIFO (discard_inv h).choose_spec
  | pxNetworkNodeCreateCBS uxBandwidth uxMaxCredit => exact hs.pxNetworkNodeCreateCBS (discard_inv h).choose_spec
  | xNetworkSchedulerLinkQueue pxNode pxQueue => exact hs.xNetworkSchedulerLinkQueue (discard_inv h).choose_spec
  | xNetworkSchedulerLinkChild pxNode pxChild uxPosition =>
      exact hs.xNetworkSchedulerLinkChild hallowed (discard_inv h).choose_spec
  | xNetworkQueueAssignRoot pxNode => exact hs.xNetworkQueueAssignRoot hallowed (discard_inv h).choose_spec

theorem Wired.run {s s' : Setup} (hs : Wired s) (h : ReflTransGen SetupStep s s') : Wired s' := by
  induction h with
  | refl => exact hs
  | tail _ hstep ih =>
      cases hstep with
      | call c hallowed hrun => exact ih.call hallowed hrun
      | other hcalls => exact ih.later hcalls

end FreeRtosTsn.Scheduler.Pointers
