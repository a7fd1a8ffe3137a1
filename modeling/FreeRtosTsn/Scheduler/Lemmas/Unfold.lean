import FreeRtosTsn.Scheduler.Lemmas.Pointers

/-!
# The tree that the pointers make up
-/

namespace FreeRtosTsn.Scheduler.Pointers

open Lib Kernel Relation

variable {cfg : Config} {s : Setup}

/-! ## Loading -/

theorem load_ok {h : Nodes} {a : Addr} {node : NodeCell} {pvScheduler : SchedulerGeneric}
    (hload : h.load (some a) = .ok (node, pvScheduler)) : h.nodes a = some node ∧
      ∃ (p : Addr) (sched : SchedulerCell), node.pvScheduler = some p ∧ pvScheduler = sched.generic p := by
  rw [Nodes.load] at hload
  repeat' split at hload
  all_goals cases hload
  exact ⟨by assumption, _, _, by assumption, rfl⟩

/-- A node is found with its scheduler, or has none. -/
theorem Wired.load (hs : Wired s) {a : Addr} {node : NodeCell} (hnode : s.h.nodes a = some node) :
    s.h.load (some a) = .error .null ∨ ∃ pvScheduler, s.h.load (some a) = .ok (node, pvScheduler) := by
  have hspace := Nat.not_lt.mpr (hs.sized a node hnode).uxSpace
  cases hp : node.pvScheduler with
  | none =>
      left
      simp [Nodes.load, hnode, hspace, hp]
  | some p =>
      obtain ⟨sched, hsched, -⟩ := hs.owned a node p hnode hp
      right
      exact ⟨sched.generic p, by simp [Nodes.load, hnode, hspace, hp, hsched]⟩

@[simp] theorem tree_null (h : Nodes) (n : Nat) : h.tree n none = .null := by
  cases n <;> rfl

theorem tree_of_load {h : Nodes} {a : Addr} {node : NodeCell} {pvScheduler : SchedulerGeneric}
    (hload : h.load (some a) = .ok (node, pvScheduler)) (n : Nat) : h.tree (n + 1) (some a) =
      .mk node.block.ucNumChildren.toNat pvScheduler node.block.pxQueue (node.block.pxNext.toList.map (h.tree n)) := by
  rw [Nodes.tree, hload]

/-! ## Calls -/

/-- The loop over slots whose calls agree. -/
theorem prvPrioritySelect_eq {f : Option Addr → P (Option NetworkQueue)} {g : Option Addr → NetworkNode} (n : Nat)
    (slots : List (Option Addr)) (h : ∀ x ∈ slots, f x = Scheduler.pxNetworkSchedulerCall cfg (g x)) :
    Pointers.prvPrioritySelect f n slots = Scheduler.prvPrioritySelect cfg n (slots.map g) := by
  induction n generalizing slots with
  | zero => cases slots <;> simp [Pointers.prvPrioritySelect, Scheduler.prvPrioritySelect]
  | succ n ih =>
      cases slots with
      | nil => rfl
      | cons x slots =>
          have hx := h x List.mem_cons_self
          have hrest := ih slots fun y hy => h y (List.mem_cons_of_mem x hy)
          change f x >>= _ = Scheduler.pxNetworkSchedulerCall cfg (g x) >>= _
          rw [hx]
          refine bind_congr fun r => ?_
          cases r with
          | none => exact hrest
          | some q => rfl

theorem prvSelectFirst_eq {f : Option Addr → P (Option NetworkQueue)} {g : Option Addr → NetworkNode}
    (slots : List (Option Addr)) (h : ∀ x ∈ slots, f x = Scheduler.pxNetworkSchedulerCall cfg (g x)) :
    Pointers.prvSelectFirst f slots = Scheduler.prvSelectFirst cfg (slots.map g) := by
  cases slots with
  | nil => rfl
  | cons x slots => simp [Pointers.prvSelectFirst, Scheduler.prvSelectFirst, h x]

/-- A call with more room on the stack than levels of the tree. -/
def CallsTree (cfg : Config) (h : Nodes) (n : Nat) (pxNode : Option Addr) : Prop :=
  ∀ m, n < m → Pointers.pxNetworkSchedulerCall cfg h m pxNode = Scheduler.pxNetworkSchedulerCall cfg (h.tree n pxNode)

theorem callsTree_null (h : Nodes) (n : Nat) : CallsTree cfg h n none := by
  intro m hm
  cases m with
  | zero => cases hm
  | succ m => simp [Pointers.pxNetworkSchedulerCall, Nodes.load, Scheduler.pxNetworkSchedulerCall]

theorem Wired.callsTree_succ (hs : Wired s) {n : Nat} {a : Addr} (ha : (s.h.nodes a).isSome)
    (hchildren : ∀ c, s.h.Child a c → CallsTree cfg s.h n (some c)) : CallsTree cfg s.h (n + 1) (some a) := by
  intro m hm
  obtain ⟨m, rfl⟩ := Nat.exists_eq_succ_of_ne_zero (Nat.ne_zero_of_lt hm)
  obtain ⟨node, hnode⟩ := Option.isSome_iff_exists.mp ha
  rcases hs.load hnode with hload | ⟨pvScheduler, hload⟩
  · simp only [Pointers.pxNetworkSchedulerCall, Nodes.tree, hload, Scheduler.pxNetworkSchedulerCall]
  · have hslots : ∀ x ∈ node.block.pxNext.toList, Pointers.pxNetworkSchedulerCall cfg s.h m x =
        Scheduler.pxNetworkSchedulerCall cfg (s.h.tree n x) := by
      intro x hx
      cases x with
      | none => exact callsTree_null s.h n m (Nat.lt_of_succ_lt_succ hm)
      | some c =>
          obtain ⟨i, hi⟩ := List.mem_iff_getElem?.mp hx
          exact hchildren c ⟨i, by rwa [Nodes.Slot, Nodes.slots_some hnode]⟩ m (Nat.lt_of_succ_lt_succ hm)
    rw [tree_of_load hload]
    simp only [Pointers.pxNetworkSchedulerCall, hload, Scheduler.pxNetworkSchedulerCall]
    refine bind_congr fun ready => ?_
    cases ready with
    | false => rfl
    | true =>
        cases node.block.pxQueue with
        | some q => rfl
        | none =>
            cases pvScheduler.fnSelect with
            | prvSelectFirst => exact prvSelectFirst_eq _ hslots
            | prvPrioritySelect => exact prvPrioritySelect_eq _ _ hslots

/-! ## The nodes that exist -/

theorem Wired.finite (hs : Wired s) : {a | (s.h.nodes a).isSome}.Finite := by
  refine (Set.finite_lt_nat s.w.calls).subset fun a ha => ?_
  obtain ⟨node, hnode⟩ := Option.isSome_iff_exists.mp ha
  exact hs.lt_calls hnode

/-- What passes from children to their parent holds of the nodes at their number. -/
theorem Wired.bounded (hs : Wired s) {R : Addr → Addr → Prop} (hR : ∀ a b, R a b → s.h.Child a b) {P : Nat → Addr → Prop}
    (h : ∀ n a, (s.h.nodes a).isSome → (∀ b, R a b → P n b) → P (n + 1) a) {a : Addr} (ha : (s.h.nodes a).isSome) :
    P s.h.uxNodes a := by
  rw [Nodes.uxNodes, Set.ncard_eq_toFinset_card _ hs.finite]
  have hall := (hs.acyclic.mono hR).bounded hs.finite.toFinset (P := fun n a => (s.h.nodes a).isSome → P n a)
    (fun a b hab => hs.finite.mem_toFinset.mpr (hs.linked a b (hR a b hab)))
    fun n a hchildren ha => h n a ha fun b hab => hchildren b hab (hs.linked a b (hR a b hab))
  exact hall a (hs.finite.mem_toFinset.mpr ha) ha

theorem Wired.callsTree (hs : Wired s) {pxNode : Option Addr} (h : s.h.Valid pxNode) :
    CallsTree cfg s.h s.h.uxNodes pxNode := by
  cases pxNode with
  | none => exact callsTree_null s.h _
  | some a =>
      exact hs.bounded (P := fun n a => CallsTree cfg s.h n (some a)) (fun _ _ hab => hab)
        (fun n a ha hchildren => hs.callsTree_succ ha hchildren) (h a rfl)

/-! ## Every slot is linked -/

theorem linkedList_iff (ns : List NetworkNode) : LinkedList ns ↔ ∀ n ∈ ns, n.Linked := by
  induction ns with
  | nil => simp [LinkedList]
  | cons n ns ih => simp [LinkedList, ih]

theorem mem_children {h : Nodes} {a c : Addr} : c ∈ h.children a ↔
    ∃ node, h.nodes a = some node ∧ node.block.pxQueue = none ∧ some c ∈ node.block.pxNext.toList := by
  cases ha : h.nodes a with
  | none => simp [Nodes.children, ha]
  | some node => cases hq : node.block.pxQueue <;> simp [Nodes.children, ha, hq]

theorem child_of_mem {h : Nodes} {a c : Addr} (hc : c ∈ h.children a) : h.Child a c := by
  obtain ⟨node, ha, -, hslot⟩ := mem_children.mp hc
  obtain ⟨i, hi⟩ := List.mem_iff_getElem?.mp hslot
  exact ⟨i, by rwa [Nodes.Slot, Nodes.slots_some ha]⟩

theorem Wired.tree_linked (hs : Wired s) {a : Addr} (ha : (s.h.nodes a).isSome)
    (hcomplete : ∀ b, ReflTransGen (fun a b => b ∈ s.h.children a) a b → s.h.Complete b) :
    (s.h.tree s.h.uxNodes (some a)).Linked := by
  refine hs.bounded (R := fun a b => b ∈ s.h.children a) (P := fun n a =>
    (∀ b, ReflTransGen (fun a b => b ∈ s.h.children a) a b → s.h.Complete b) → (s.h.tree n (some a)).Linked)
    (fun a b => child_of_mem) ?_ ha hcomplete
  intro n a ha hchildren hcomplete
  obtain ⟨node, pvScheduler, hload, hslots⟩ := hcomplete a .refl
  have hnode := (load_ok hload).1
  rw [tree_of_load hload]
  cases hq : node.block.pxQueue with
  | some q => trivial
  | none =>
      obtain ⟨hfirst, hnone⟩ := hslots hq
      refine ⟨?_, ?_, (linkedList_iff _).mpr ?_⟩
      · rw [List.length_map]
        exact (hs.sized a node hnode).ucNumChildren
      · rw [List.length_map]
        exact hfirst
      · simp only [List.mem_map, forall_exists_index, and_imp, forall_apply_eq_imp_iff₂]
        intro x hx
        cases x with
        | none => exact absurd hx hnone
        | some c =>
            have hc : c ∈ s.h.children a := mem_children.mpr ⟨node, hnode, hq, hx⟩
            exact hchildren c hc fun b hb => hcomplete b (hb.head hc)

/-! ## Every scheduler has its own activation -/

/-- The address of the credit based scheduler of a node. -/
def cbsOf (h : Nodes) (a : Addr) : Option CbsId :=
  match h.load (some a) with
  | .error _ => none
  | .ok (_, pvScheduler) => pvScheduler.fnReady.cbs.map (·.id)

theorem Wired.cbsOf_inj (hs : Wired s) {a b : Addr} {p : CbsId} (ha : cbsOf s.h a = some p) (hb : cbsOf s.h b = some p) :
    a = b := by
  have howner : ∀ {a}, cbsOf s.h a = some p → ∃ sched, s.h.schedulers p = some sched ∧ sched.pxOwner = a := by
    intro a ha
    rw [cbsOf] at ha
    split at ha
    · cases ha
    · rename_i node pvScheduler hload
      obtain ⟨hnode, q, sched, hq, rfl⟩ := load_ok hload
      cases hr : sched.fnReady with
      | prvAlwaysReady => simp [SchedulerCell.generic, hr, ReadyQueueFunction.cbs] at ha
      | prvCBSReady uxBandwidth uxMaxCredit =>
          simp only [SchedulerCell.generic, hr, ReadyQueueFunction.cbs, Option.map_some, Option.some.injEq] at ha
          exact hs.owned a node p hnode (ha ▸ hq)
  obtain ⟨sched, hsched, rfl⟩ := howner ha
  obtain ⟨sched', hsched', rfl⟩ := howner hb
  cases hsched.symm.trans hsched'
  rfl

theorem shapersList_ids (h : Nodes) (n : Nat)
    (ih : ∀ a, ((h.tree n (some a)).shapers.map fun x => x.1.id).Sublist ((preorder h.children n a).filterMap (cbsOf h)))
    (slots : List (Option Addr)) : ((shapersList (slots.map (h.tree n))).map fun x => x.1.id).Sublist
      (((slots.filterMap id).flatMap (preorder h.children n)).filterMap (cbsOf h)) := by
  induction slots with
  | nil => simp [shapersList]
  | cons x slots ihs =>
      cases x with
      | none => simpa [shapersList, NetworkNode.shapers] using ihs
      | some a => simpa [shapersList] using (ih a).append ihs

theorem shapers_ids (h : Nodes) (n : Nat) (a : Addr) :
    ((h.tree n (some a)).shapers.map fun x => x.1.id).Sublist ((preorder h.children n a).filterMap (cbsOf h)) := by
  induction n generalizing a with
  | zero => simp [Nodes.tree, NetworkNode.shapers]
  | succ n ih =>
      cases hload : h.load (some a) with
      | error e => simp [Nodes.tree, hload, NetworkNode.shapers]
      | ok x =>
          obtain ⟨node, pvScheduler⟩ := x
          have hnode := (load_ok hload).1
          have hown : ∀ l, (a :: l).filterMap (cbsOf h) =
              (pvScheduler.fnReady.cbs.map (·.id)).toList ++ l.filterMap (cbsOf h) := by
            intro l
            cases hc : pvScheduler.fnReady.cbs <;> simp [cbsOf, hload, hc]
          rw [tree_of_load hload, preorder, hown]
          cases hq : node.block.pxQueue with
          | some q => cases hc : pvScheduler.fnReady.cbs <;> simp [NetworkNode.shapers, hc]
          | none =>
              have hlist := shapersList_ids h n ih node.block.pxNext.toList
              have hchildren : h.children a = node.block.pxNext.toList.filterMap id := by
                simp [Nodes.children, hnode, hq]
              rw [hchildren]
              cases hc : pvScheduler.fnReady.cbs with
              | none => simpa [NetworkNode.shapers, hc] using hlist
              | some c => simpa [NetworkNode.shapers, hc] using hlist

theorem Wired.children_nodup (hs : Wired s) (a : Addr) : (s.h.children a).Nodup := by
  cases ha : s.h.nodes a with
  | none => simp [Nodes.children, ha]
  | some node =>
      rw [Nodes.children, ha]
      dsimp only
      split
      · exact .nil
      · refine List.pairwise_filterMap.mpr (List.pairwise_iff_getElem.mpr ?_)
        rintro i j hi hj hij c hc d hd rfl
        have hslot : ∀ {i} (hi : i < node.block.pxNext.toList.length), node.block.pxNext.toList[i] = some c →
            s.h.Slot a i c := by
          intro i hi h
          rw [Nodes.Slot, Nodes.slots_some ha, List.getElem?_eq_getElem hi, h]
        exact Nat.ne_of_lt hij (hs.oneSlot a a c i j (hslot hi hc) (hslot hj hd)).2

theorem Wired.tree_distinct (hs : Wired s) (n : Nat) (a : Addr) :
    ((s.h.tree n (some a)).shapers.map fun x => x.1.id).Nodup := by
  refine (shapers_ids s.h n a).nodup ?_
  refine List.Nodup.filterMap (fun b b' p hb hb' => hs.cbsOf_inj hb hb') ?_
  refine preorder_nodup (hs.acyclic.mono fun a b => child_of_mem) ?_ hs.children_nodup n a
  intro a b c ha hb
  obtain ⟨i, hi⟩ := child_of_mem ha
  obtain ⟨j, hj⟩ := child_of_mem hb
  exact (hs.oneSlot a b c i j hi hj).1

end FreeRtosTsn.Scheduler.Pointers
