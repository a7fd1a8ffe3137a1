import FreeRtosTsn.Scheduler.Linking

/-!
# What the calls that link do
-/

namespace FreeRtosTsn.Scheduler.NodeBlock

open Lib Kernel

variable {Q N : Type} {uxSpace n : Nat}

/-! ## Running -/

theorem run_accessQueue (node : NodeBlock Q N uxSpace) :
    accessQueue.run node = if uxSpace < sizeofNetworkNode then .error .heap node else .ok () node := by
  rw [accessQueue]
  split
  · rfl
  · rfl

theorem run_xNetworkSchedulerLinkQueue (pxQueue : Q) (node : NodeBlock Q N uxSpace) :
    (xNetworkSchedulerLinkQueue pxQueue).run node =
      if uxSpace < sizeofNetworkNode then .error .heap node else .ok true { node with pxQueue := some pxQueue } := by
  rw [xNetworkSchedulerLinkQueue, EStateM.run_bind, run_accessQueue]
  by_cases hspace : uxSpace < sizeofNetworkNode
  · rw [if_pos hspace, if_pos hspace]
  · rw [if_neg hspace, if_neg hspace]
    rfl

theorem run_xNetworkSchedulerLinkChild (pxChild : N) (uxPosition : Nat) (node : NodeBlock Q N uxSpace) :
    (xNetworkSchedulerLinkChild pxChild uxPosition).run node =
      if uxPosition < node.ucNumChildren.toNat then
        if uxSpace < sizeofNetworkNode then .error .heap node
        else if node.pxQueue.isNone then
          if h : uxPosition < (uxSpace - sizeofNetworkNode) / sizeofPointer then
            .ok true { node with pxNext := node.pxNext.set uxPosition (some pxChild) h }
          else .error .heap node
        else .ok false node
      else .ok false node := by
  rw [xNetworkSchedulerLinkChild, run_bind_ok (EStateM.run_get _)]
  split
  · rw [EStateM.run_bind, run_accessQueue]
    by_cases hspace : uxSpace < sizeofNetworkNode
    · rw [if_pos hspace, if_pos hspace]
    · rw [if_neg hspace, if_neg hspace]
      dsimp only
      split
      · split
        · rfl
        · rfl
      · rfl
  · rfl

/-- The slots have room for every position that `ucNumChildren` lets through. -/
structure Created (n : Nat) (node : NodeBlock Q N uxSpace) : Prop where
  ucNumChildren : node.ucNumChildren.toNat = n % 256
  slots : sizeofNetworkNode ≤ uxSpace → n % 256 ≤ (uxSpace - sizeofNetworkNode) / sizeofPointer

theorem Created.of_create {pvPortMalloc : Nat → Bool} {node : NodeBlock Q N (uxSpaceRequired n)}
    (h : pxNetworkNodeCreate pvPortMalloc n = .ok (some node)) :
    Created n node ∧ node.pxQueue = none ∧ ¬node.ChildLinked := by
  rw [pxNetworkNodeCreate] at h
  split at h
  · split at h
    · cases h
    · cases h
      refine ⟨⟨UInt8.toNat_ofNat', ?_⟩, rfl, ?_⟩
      · simp only [uxSpaceRequired, wrap32, sizeofNetworkNode, sizeofPointer]
        omega
      · simp [ChildLinked]
  · cases h

/-! ## One call -/

section Call

variable {node : NodeBlock Q N uxSpace}

theorem Created.run (hcreated : Created n node) {call : LinkCall Q N} {r : Bool} {node' : NodeBlock Q N uxSpace}
    (h : call.run.run node = .ok r node') : Created n node' := by
  cases call with
  | queue pxQueue =>
      rw [LinkCall.run, run_xNetworkSchedulerLinkQueue] at h
      split at h
      · cases h
      · cases h
        exact ⟨hcreated.ucNumChildren, hcreated.slots⟩
  | child pxChild uxPosition =>
      rw [LinkCall.run, run_xNetworkSchedulerLinkChild] at h
      repeat' split at h
      all_goals cases h
      all_goals exact ⟨hcreated.ucNumChildren, hcreated.slots⟩

/-- The call returns and is lawful. -/
def LinkCall.Steps (n : Nat) (call : LinkCall Q N) (node : NodeBlock Q N uxSpace) : Prop :=
  ∃ r node', call.run.run node = .ok r node' ∧ call.Lawful n node r node'

theorem steps_queue_iff (pxQueue : Q) :
    (LinkCall.queue pxQueue).Steps n node ↔ (LinkCall.queue (N := N) pxQueue).Fits n node := by
  have hrun : (LinkCall.queue pxQueue).run.run node = _ := run_xNetworkSchedulerLinkQueue pxQueue node
  constructor
  · rintro ⟨r, node', hok, hlawful⟩
    rw [hrun] at hok
    split at hok
    · cases hok
    · rename_i hspace
      cases hok
      exact ⟨Nat.not_lt.mp hspace, fun hchild => hlawful.exclusive ⟨rfl, hchild⟩⟩
  · rintro ⟨hspace, hchild⟩
    rw [if_neg (Nat.not_lt.mpr hspace)] at hrun
    refine ⟨_, _, hrun, ⟨?_, Bool.noConfusion, fun h => hchild h.2⟩⟩
    rintro _ _ ⟨⟩

/-- A child that is refused leaves the node as it is. -/
theorem steps_child_refused_iff (hex : node.Exclusive) {pxChild : N} {uxPosition : Nat}
    (hrun : (LinkCall.child (Q := Q) pxChild uxPosition).run.run node = .ok false node) :
    (LinkCall.child pxChild uxPosition).Steps n node ↔ (uxPosition < n → node.pxQueue.isSome) := by
  constructor
  · rintro ⟨r, node', hok, hlawful⟩ hlt
    rw [hrun] at hok
    cases hok
    by_contra hqueue
    have hpass := (hlawful.child pxChild uxPosition rfl).1.mpr ⟨hlt, Option.not_isSome_iff_eq_none.mp hqueue⟩
    cases hpass
  · intro hqueue
    refine ⟨false, node, hrun, ⟨?_, fun _ => rfl, hex⟩⟩
    rintro _ _ ⟨⟩
    refine ⟨⟨Bool.noConfusion, ?_⟩, Bool.noConfusion⟩
    rintro ⟨hlt, hnone⟩
    rw [hnone] at hqueue
    cases hqueue hlt

theorem steps_child_iff (hcreated : Created n node) (hex : node.Exclusive) (pxChild : N) (uxPosition : Nat) :
    (LinkCall.child pxChild uxPosition).Steps n node ↔
      (LinkCall.child (Q := Q) pxChild uxPosition).Fits n node := by
  have hrun : (LinkCall.child pxChild uxPosition).run.run node = _ :=
    run_xNetworkSchedulerLinkChild pxChild uxPosition node
  rw [hcreated.ucNumChildren] at hrun
  rcases Nat.lt_or_ge uxPosition (n % 256) with hlt | hge
  · rw [if_pos hlt] at hrun
    by_cases hspace : uxSpace < sizeofNetworkNode
    · rw [if_pos hspace] at hrun
      refine iff_of_false ?_ fun hfits => Nat.not_le.mpr hspace (hfits.1 hlt)
      rintro ⟨r, node', hok, -⟩
      rw [hrun] at hok
      cases hok
    · have hle := Nat.not_lt.mp hspace
      have hfits : (LinkCall.child (Q := Q) pxChild uxPosition).Fits n node :=
        ⟨fun _ => hle, fun hge => absurd hge (Nat.not_le.mpr hlt)⟩
      rw [if_neg hspace] at hrun
      refine iff_of_true ?_ hfits
      cases hqueue : node.pxQueue with
      | some q =>
          rw [hqueue] at hrun
          exact (steps_child_refused_iff hex hrun).mpr fun _ => by rw [hqueue]; rfl
      | none =>
          have hslot := Nat.lt_of_lt_of_le hlt (hcreated.slots hle)
          rw [if_pos (by rw [hqueue]; rfl), dif_pos hslot] at hrun
          refine ⟨_, _, hrun, ⟨?_, Bool.noConfusion, ?_⟩⟩
          · rintro _ _ ⟨⟩
            exact ⟨iff_of_true rfl ⟨Nat.lt_of_lt_of_le hlt (Nat.mod_le _ _), hqueue⟩, fun _ => ⟨hslot, rfl⟩⟩
          · rintro ⟨hsome, -⟩
            rw [hqueue] at hsome
            cases hsome
  · rw [if_neg (Nat.not_lt.mpr hge)] at hrun
    rw [steps_child_refused_iff hex hrun]
    exact ⟨fun h => ⟨fun hlt => absurd hge (Nat.not_le.mpr hlt), fun _ => h⟩, fun h => h.2 hge⟩

theorem steps_iff (hcreated : Created n node) (hex : node.Exclusive) (call : LinkCall Q N) :
    call.Steps n node ↔ call.Fits n node := by
  cases call with
  | queue pxQueue => exact steps_queue_iff pxQueue
  | child pxChild uxPosition => exact steps_child_iff hcreated hex pxChild uxPosition

end Call

/-! ## Sequences of calls -/

theorem callsLawful_iff (calls : List (LinkCall Q N)) {node : NodeBlock Q N uxSpace} (hcreated : Created n node)
    (hex : node.Exclusive) : CallsLawful n calls node ↔ CallsFit n calls node := by
  induction calls generalizing node with
  | nil => exact Iff.rfl
  | cons call calls ih =>
      constructor
      · rintro ⟨r, node', hrun, hlawful, hrest⟩
        refine ⟨(steps_iff hcreated hex call).mp ⟨r, node', hrun, hlawful⟩, fun r₁ node₁ hrun₁ => ?_⟩
        cases hrun.symm.trans hrun₁
        exact (ih (hcreated.run hrun) hlawful.exclusive).mp hrest
      · rintro ⟨hfits, hrest⟩
        obtain ⟨r, node', hrun, hlawful⟩ := (steps_iff hcreated hex call).mpr hfits
        exact ⟨r, node', hrun, hlawful, (ih (hcreated.run hrun) hlawful.exclusive).mpr (hrest r node' hrun)⟩

/-! ## The node in the tree -/

section Tree

variable {node node' : NodeBlock NetworkQueue NetworkNode uxSpace} {pvScheduler : SchedulerGeneric} {r : Bool}

/-- A block whose size did not wrap is a node of the tree with every slot null. -/
theorem toNode_create {pvPortMalloc : Nat → Bool} {node : NodeBlock NetworkQueue NetworkNode (uxSpaceRequired n)}
    (hn : sizeofNetworkNode + n * sizeofPointer < 2 ^ 32) (h : pxNetworkNodeCreate pvPortMalloc n = .ok (some node)) :
    node.toNode pvScheduler = Scheduler.pxNetworkNodeCreate n pvScheduler := by
  have hspace : (uxSpaceRequired n - sizeofNetworkNode) / sizeofPointer = n := by
    simp only [uxSpaceRequired, wrap32, sizeofNetworkNode, sizeofPointer] at hn ⊢
    omega
  rw [pxNetworkNodeCreate] at h
  split at h
  · split at h
    · cases h
    · cases h
      simp [toNode, Scheduler.pxNetworkNodeCreate, hspace]
  · cases h

theorem toNode_linkQueue {pxQueue : NetworkQueue}
    (h : (NodeBlock.xNetworkSchedulerLinkQueue pxQueue).run node = .ok r node') :
    Scheduler.xNetworkSchedulerLinkQueue pxQueue (node.toNode pvScheduler) = some (node'.toNode pvScheduler) := by
  rw [run_xNetworkSchedulerLinkQueue] at h
  split at h
  · cases h
  · cases h
    rfl

theorem toNode_linkChild {pxChild : NetworkNode} {uxPosition : Nat}
    (h : (NodeBlock.xNetworkSchedulerLinkChild pxChild uxPosition).run node = .ok r node') :
    Scheduler.xNetworkSchedulerLinkChild pxChild uxPosition (node.toNode pvScheduler) =
      if r then some (node'.toNode pvScheduler) else none := by
  rw [run_xNetworkSchedulerLinkChild] at h
  rw [toNode, Scheduler.xNetworkSchedulerLinkChild]
  split at h
  · rename_i hlt
    split at h
    · cases h
    · split at h
      · rename_i hqueue
        split at h
        · cases h
          rw [if_pos ⟨hlt, hqueue⟩]
          simp [toNode, Vector.toList_set, List.map_set]
        · cases h
      · rename_i hqueue
        cases h
        rw [if_neg fun hboth => hqueue hboth.2]
        rfl
  · rename_i hlt
    cases h
    rw [if_neg fun hboth => hlt hboth.1]
    rfl

end Tree

end FreeRtosTsn.Scheduler.NodeBlock
