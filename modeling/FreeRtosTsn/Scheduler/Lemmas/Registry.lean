import FreeRtosTsn.Scheduler.Registry

/-!
# What is kept by creating and freeing queues
-/

namespace FreeRtosTsn.Scheduler.Registry

open Lib Kernel

variable {cfg : Config} {s s' : Registry} {a : Addr} {x : NewQueue}

/-! ## Running -/

@[simp] theorem run_storeQueue (a : Addr) (q : QueueBlock) (s : Registry) :
    (storeQueue a q).run s = .ok () { s with queueAt := Function.update s.queueAt a (some q) } := rfl

@[simp] theorem run_storeItem (a : Addr) (pxItem : NetworkQueueList) (s : Registry) :
    (storeItem a pxItem).run s = .ok () { s with itemAt := Function.update s.itemAt a (some pxItem) } := rfl

theorem run_reads {α : Type} (f : Registry → Except RegistryFault α) (s : Registry) :
    (reads f).run s = match f s with
      | .ok a => .ok a s
      | .error e => .error e s := by
  rw [reads, EStateM.run_bind, EStateM.run_get]
  dsimp only
  cases f s <;> rfl

theorem run_reads_ok {α : Type} {f : Registry → Except RegistryFault α} {x : α} (h : f s = .ok x) :
    (reads f).run s = .ok x s := by
  rw [run_reads, h]

theorem run_onWorld {α : Type} (m : M α) (s : Registry) :
    (onWorld m).run s = match m.run s.w with
      | .ok a w => .ok a { s with w := w }
      | .error e w => .error (.code e) { s with w := w } := rfl

@[simp] theorem run_pvPortMalloc (s : Registry) :
    pvPortMalloc.run s =
      .ok (if s.w.env.pvPortMalloc s.w.calls then some s.w.calls else none) { s with w := s.w.tick } := rfl

theorem run_xQueueCreate_some (h : s.w.env.xQueueCreate s.w.calls = true) :
    xQueueCreate.run s =
      .ok (some s.w.calls) { s with w := { s.w.tick with queues := Function.update s.w.queues s.w.calls [] } } := by
  rw [xQueueCreate, run_bind_ok (EStateM.run_get s), if_pos h]
  rfl

theorem run_xQueueCreate_none (h : s.w.env.xQueueCreate s.w.calls = false) :
    xQueueCreate.run s = .ok none { s with w := s.w.tick } := by
  rw [xQueueCreate, run_bind_ok (EStateM.run_get s), if_neg (by rw [h]; exact Bool.noConfusion)]
  rfl

theorem loadQueue_of_eq {q : QueueBlock} (h : s.queueAt a = some q) : s.loadQueue a = .ok q := by
  rw [loadQueue, h]

/-! ## The list -/

/-- The items of the list are blocks that point to the queues `created`. -/
structure Listed (created : List Addr) (items : List Addr) (s : Registry) : Prop where
  walk : Walk s.next s.pxNetworkQueueList items
  queues : items.map s.queueOf = created.map some
  items_lt : ∀ a ∈ items, a < s.w.calls
  uxNumQueues : s.uxNumQueues = items.length

namespace Listed

variable {created items : List Addr}

theorem length_eq (h : Listed created items s) : items.length = created.length := by
  have hlen := congrArg List.length h.queues
  rwa [List.length_map, List.length_map] at hlen

theorem length_le (h : Listed created items s) : items.length ≤ s.w.calls :=
  length_le_of_nodup_lt h.walk.nodup h.items_lt

theorem itemAt (h : Listed created items s) (ha : a ∈ items) : ∃ pxItem, s.itemAt a = some pxItem := by
  have hmem : s.queueOf a ∈ created.map some := by
    rw [← h.queues]
    exact List.mem_map_of_mem ha
  obtain ⟨q, -, hq⟩ := List.mem_map.mp hmem
  cases hitem : s.itemAt a with
  | some pxItem => exact ⟨pxItem, rfl⟩
  | none =>
      rw [queueOf, hitem] at hq
      cases hq

end Listed

theorem next_eq_some {n : Addr} (h : s.next a = some n) : ∃ q, s.itemAt a = some ⟨q, some n⟩ := by
  obtain ⟨⟨q, o⟩, hitem, rfl⟩ := Option.bind_eq_some_iff.mp h
  exact ⟨q, hitem⟩

/-- The loop ends at the last item. -/
theorem prvLastItem_eq {z q : Addr} {l : List Addr} (h : Leads s.next (some a) l (some z))
    (hz : s.itemAt z = some ⟨q, none⟩) {fuel : Nat} (hfuel : l.length < fuel) : s.prvLastItem fuel a = .ok z := by
  induction l generalizing a fuel with
  | nil =>
      obtain ⟨fuel, rfl⟩ := Nat.exists_eq_succ_of_ne_zero (Nat.ne_of_gt hfuel)
      cases h
      rw [prvLastItem, loadItem, hz]
  | cons b l ih =>
      obtain ⟨fuel, rfl⟩ := Nat.exists_eq_succ_of_ne_zero (Nat.ne_of_gt (Nat.lt_trans (Nat.succ_pos _) hfuel))
      cases h with
      | visit h =>
          cases hnext : s.next b with
          | none =>
              rw [hnext] at h
              cases h
          | some n =>
              obtain ⟨q', hitem⟩ := next_eq_some hnext
              rw [hnext] at h
              rw [prvLastItem, loadItem, hitem]
              exact ih h (Nat.lt_of_succ_lt_succ hfuel)

/-- What an addition does when the list is `items`. -/
structure Added (items : List Addr) (a : Addr) (s s' : Registry) : Prop where
  frame : s' = { s with
    itemAt := s'.itemAt, pxNetworkQueueList := s'.pxNetworkQueueList, uxNumQueues := s.uxNumQueues + 1 }
  walk : Walk s'.next s'.pxNetworkQueueList (items ++ [a])
  queues : s'.queueOf = s.queueOf

theorem next_of_update {q : Addr} {o : Option Addr} (h : s'.itemAt = Function.update s.itemAt a (some ⟨q, o⟩)) :
    s'.next = Function.update s.next a o := by
  funext b
  by_cases hb : b = a
  · subst hb
    simp [next, h]
  · simp [next, h, hb]

theorem queueOf_of_update {q : Addr} {o : Option Addr} (h : s'.itemAt = Function.update s.itemAt a (some ⟨q, o⟩))
    (hq : s.queueOf a = some q) : s'.queueOf = s.queueOf := by
  funext b
  by_cases hb : b = a
  · subst hb
    rw [hq, queueOf, h, Function.update_self]
    rfl
  · simp [queueOf, h, hb]

/-- A block that is added goes behind the last item. -/
theorem run_vNetworkQueueListAdd {created items : List Addr} (h : Listed created items s) {q : Addr}
    (hnew : s.itemAt a = some ⟨q, none⟩) (ha : a ∉ items) :
    ∃ s', (vNetworkQueueListAdd a).run s = .ok () s' ∧ Added items a s s' := by
  have hnone : s.next a = none := by
    rw [next, hnew]
    rfl
  rcases List.eq_nil_or_concat items with rfl | ⟨l, z, hitems⟩
  · have hhead := Walk.nil_iff.mp h.walk
    have hrun : (vNetworkQueueListAdd a).run s =
        .ok () { s with pxNetworkQueueList := some a, uxNumQueues := s.uxNumQueues + 1 } := by
      simp [vNetworkQueueListAdd, hhead]
    refine ⟨_, hrun, rfl, .visit ?_, rfl⟩
    exact Walk.nil_iff.mpr hnone
  · rw [List.concat_eq_append] at hitems
    subst hitems
    obtain ⟨⟨qz, oz⟩, hz⟩ := h.itemAt (a := z) (by simp)
    obtain ⟨hleads, hend⟩ := h.walk.last
    obtain rfl : oz = none := by
      rw [next, hz] at hend
      exact hend
    have hlen := h.length_le
    rw [List.length_append] at hlen
    cases hhead : s.pxNetworkQueueList with
    | none =>
        rw [hhead] at hleads
        cases hleads
    | some pxIndex =>
        rw [hhead] at hleads
        have hrun : (vNetworkQueueListAdd a).run s =
            .ok () { s with
              itemAt := Function.update s.itemAt z (some ⟨qz, some a⟩)
              uxNumQueues := s.uxNumQueues + 1 } := by
          have hlast : prvLastItem { s with uxNumQueues := s.uxNumQueues + 1 } s.w.calls pxIndex = .ok z :=
            prvLastItem_eq (s := { s with uxNumQueues := s.uxNumQueues + 1 }) hleads hz hlen
          rw [vNetworkQueueListAdd, run_bind_ok (EStateM.run_modify _ _), run_bind_ok (EStateM.run_get _), hhead]
          dsimp only
          rw [hhead] at hlast
          rw [run_bind_ok (run_reads_ok hlast), EStateM.run_bind, run_reads, loadItem, hz]
          rfl
        refine ⟨_, hrun, rfl, ?_, queueOf_of_update rfl ?_⟩
        · have hlink := h.walk.link_last ha
          rw [← hnone, Function.update_eq_self, hhead] at hlink
          rw [next_of_update (s := s) rfl, hhead, List.append_assoc]
          exact hlink
        · rw [queueOf, hz]
          rfl

/-! ## Creating a queue -/

namespace Listed

variable {created items : List Addr}

/-- What is done to other blocks does not matter. -/
theorem frame (h : Listed created items s) (hitem : ∀ a ∈ items, s'.itemAt a = s.itemAt a)
    (hhead : s'.pxNetworkQueueList = s.pxNetworkQueueList) (hcalls : s.w.calls ≤ s'.w.calls)
    (hnum : s'.uxNumQueues = s.uxNumQueues) : Listed created items s' where
  walk := by
    rw [hhead]
    exact Leads.congr h.walk fun a ha => by rw [next, next, hitem a ha]
  queues := by
    rw [← h.queues]
    exact List.map_congr_left fun a ha => by rw [queueOf, queueOf, hitem a ha]
  items_lt a ha := Nat.lt_of_lt_of_le (h.items_lt a ha) hcalls
  uxNumQueues := hnum.trans h.uxNumQueues

/-- The list after an addition. -/
theorem added (h : Listed created items s) {q : Addr} (hnew : s.queueOf a = some q) (ha : a < s.w.calls)
    (hadd : Added items a s s') : Listed (created ++ [q]) (items ++ [a]) s' where
  walk := hadd.walk
  queues := by rw [hadd.queues, List.map_append, List.map_append, h.queues, List.map_singleton, hnew, List.map_singleton]
  items_lt b hb := by
    rw [hadd.frame]
    rcases List.mem_append.mp hb with hb | hb
    · exact h.items_lt b hb
    · rw [List.mem_singleton.mp hb]
      exact ha
  uxNumQueues := by
    rw [hadd.frame, List.length_append, ← h.uxNumQueues]
    rfl

end Listed

/-- The world after the three allocations of a creation. -/
def allocated (w : World) : World :=
  { w with calls := w.calls + 3, queues := Function.update w.queues (w.calls + 1) [] }

/-- A block with the default values is listed. -/
theorem run_pxNetworkQueueMalloc {created items : List Addr} (h : Listed created items s)
    (hqueue : s.w.env.pvPortMalloc s.w.calls = true) (hkernel : s.w.env.xQueueCreate (s.w.calls + 1) = true)
    (hnode : s.w.env.pvPortMalloc (s.w.calls + 2) = true) :
    ∃ s', pxNetworkQueueMalloc.run s = .ok (some s.w.calls) s' ∧ s'.w = allocated s.w ∧
      s'.queueAt = Function.update s.queueAt s.w.calls (some ⟨s.w.calls + 1, 0, .eSendRecv, [], none⟩) ∧
      s'.overruns = s.overruns ∧ Listed (created ++ [s.w.calls]) (items ++ [s.w.calls + 2]) s' := by
  -- the state in which the item is added
  let s₁ : Registry := { s with
    w := allocated s.w
    queueAt := Function.update s.queueAt s.w.calls (some ⟨s.w.calls + 1, 0, .eSendRecv, [], none⟩)
    itemAt := Function.update s.itemAt (s.w.calls + 2) (some ⟨s.w.calls, none⟩) }
  have hlisted : Listed created items s₁ := by
    exact h.frame (fun a ha => Function.update_of_ne (Nat.ne_of_lt (Nat.lt_add_right 2 (h.items_lt a ha))) _ _) rfl
      (Nat.le_add_right _ 3) rfl
  have hnew : s₁.itemAt (s.w.calls + 2) = some ⟨s.w.calls, none⟩ := Function.update_self _ _ _
  obtain ⟨s', hrun, hadd⟩ := run_vNetworkQueueListAdd hlisted hnew fun hmem =>
    Nat.not_le.mpr (h.items_lt _ hmem) (Nat.le_add_right _ 2)
  refine ⟨s', ?_, by rw [hadd.frame], by rw [hadd.frame], by rw [hadd.frame], ?_⟩
  · have hrest : (do vNetworkQueueListAdd (s.w.calls + 2); return some s.w.calls : R (Option Addr)).run s₁ =
        .ok (some s.w.calls) s' := by
      rw [run_bind_ok hrun]
      rfl
    have hk : xQueueCreate.run { s with w := s.w.tick } = _ :=
      run_xQueueCreate_some (s := { s with w := s.w.tick }) hkernel
    rw [pxNetworkQueueMalloc, run_bind_ok (run_pvPortMalloc s), if_pos hqueue, run_bind_ok hk,
      run_bind_ok (run_storeQueue _ _ _), run_bind_ok (run_pvPortMalloc _), if_pos (by exact hnode),
      run_bind_ok (run_storeItem _ _ _)]
    exact hrest
  · refine hlisted.added ?_ (Nat.lt_succ_self _) hadd
    rw [queueOf, hnew]
    rfl

theorem run_strcpy {q : QueueBlock} (h : s.queueAt a = some q) (bytes : List UInt8) :
    (strcpy cfg a bytes).run s = .ok () { s with
      queueAt := Function.update s.queueAt a (some { q with cName := bytes })
      overruns := if bytes.length < cfg.tsnconfigMaxQueueNameLen then s.overruns
        else s.overruns ++ [(a, bytes.length + 1)] } := by
  rw [strcpy, run_bind_ok (run_reads_ok (loadQueue_of_eq h)), run_bind_ok (run_storeQueue _ _ _)]
  by_cases hfits : bytes.length < cfg.tsnconfigMaxQueueNameLen
  · rw [if_pos hfits, if_pos (by exact hfits)]
    rfl
  · rw [if_neg hfits, if_neg (by exact hfits)]
    rfl

/-- What a creation leaves. -/
structure Creates (cfg : Config) (x : NewQueue) (s s' : Registry) : Prop where
  w : s'.w = allocated s.w
  queueAt : s'.queueAt = Function.update s.queueAt s.w.calls (some (x.block (s.w.calls + 1)))
  overruns : s'.overruns = if x.Fits cfg then s.overruns else s.overruns ++ [(s.w.calls, x.given.length + 1)]

/-- The three allocations of a creation succeed. -/
structure Allocates (s : Registry) : Prop where
  queue : s.w.env.pvPortMalloc s.w.calls = true
  kernel : s.w.env.xQueueCreate (s.w.calls + 1) = true
  node : s.w.env.pvPortMalloc (s.w.calls + 2) = true

theorem run_pxNetworkQueueCreate {created items : List Addr} (h : Listed created items s) (hmem : s.Allocates) :
    ∃ s', (pxNetworkQueueCreate cfg x).run s = .ok s.w.calls s' ∧ Creates cfg x s s' ∧
      Listed (created ++ [s.w.calls]) (items ++ [s.w.calls + 2]) s' := by
  obtain ⟨s₁, hrun, hw, hqueueAt, hover, hlisted⟩ := run_pxNetworkQueueMalloc h hmem.queue hmem.kernel hmem.node
  have hq : s₁.queueAt s.w.calls = some ⟨s.w.calls + 1, 0, .eSendRecv, [], none⟩ := by
    rw [hqueueAt, Function.update_self]
  refine ⟨{ s₁ with
    queueAt := Function.update s₁.queueAt s.w.calls (some (x.block (s.w.calls + 1)))
    overruns := if x.Fits cfg then s₁.overruns else s₁.overruns ++ [(s.w.calls, x.given.length + 1)] }, ?_, ?_, ?_⟩
  · rw [pxNetworkQueueCreate, run_bind_ok hrun, run_bind_ok (run_strcpy hq x.given),
      run_bind_ok (run_reads_ok (loadQueue_of_eq (Function.update_self _ _ _))), run_bind_ok (run_storeQueue _ _ _),
      Function.update_idem]
    rfl
  · refine ⟨hw, ?_, by rw [hover]⟩
    rw [hqueueAt, Function.update_idem]
  · exact hlisted.frame (fun _ _ => rfl) rfl (Nat.le_refl _) rfl

/-- Without memory the creation dereferences a null pointer, and without a kernel queue it is asserted. -/
theorem run_pxNetworkQueueMalloc_fails (hqueue : s.w.env.pvPortMalloc s.w.calls = true) (h : ¬s.Allocates) :
    ∃ s', pxNetworkQueueMalloc.run s =
      .error (.code (if s.w.env.xQueueCreate (s.w.calls + 1) then .null else .assert)) s' := by
  rw [pxNetworkQueueMalloc, run_bind_ok (run_pvPortMalloc s), if_pos hqueue]
  cases hkernel : s.w.env.xQueueCreate (s.w.calls + 1) with
  | false =>
      rw [run_bind_ok (run_xQueueCreate_none (s := { s with w := s.w.tick }) hkernel)]
      exact ⟨_, rfl⟩
  | true =>
      have hnode : ¬s.w.env.pvPortMalloc (s.w.calls + 2) = true := fun hnode => h ⟨hqueue, hkernel, hnode⟩
      rw [run_bind_ok (run_xQueueCreate_some (s := { s with w := s.w.tick }) hkernel),
        run_bind_ok (run_storeQueue _ _ _), run_bind_ok (run_pvPortMalloc _), if_neg (by exact hnode)]
      exact ⟨_, rfl⟩

theorem run_pxNetworkQueueCreate_fails (cfg : Config) (x : NewQueue) (h : ¬s.Allocates) :
    ∃ e s', (pxNetworkQueueCreate cfg x).run s = .error e s' ∧ (e = .code .null ↔ ¬s.MemoryLeft) := by
  cases hqueue : s.w.env.pvPortMalloc s.w.calls with
  | false =>
      refine ⟨.code .null, { s with w := s.w.tick }, ?_, iff_of_true rfl fun hleft => ?_⟩
      · rw [pxNetworkQueueCreate, pxNetworkQueueMalloc, bind_assoc, run_bind_ok (run_pvPortMalloc s), hqueue]
        rfl
      · rw [MemoryLeft, hqueue] at hleft
        exact Bool.noConfusion hleft.1
  | true =>
      obtain ⟨s', hrun⟩ := run_pxNetworkQueueMalloc_fails hqueue h
      refine ⟨_, s', by rw [pxNetworkQueueCreate, run_bind_error hrun], ?_⟩
      cases hkernel : s.w.env.xQueueCreate (s.w.calls + 1) with
      | false => simp [MemoryLeft, hqueue, hkernel]
      | true =>
          have hnode : ¬s.w.env.pvPortMalloc (s.w.calls + 2) = true := fun hnode => h ⟨hqueue, hkernel, hnode⟩
          simp [MemoryLeft, hqueue, hkernel, hnode]

/-- A creation that returns has allocated. -/
theorem allocates_of_run (h : (pxNetworkQueueCreate cfg x).run s = .ok a s') : s.Allocates := by
  by_contra hno
  obtain ⟨e, s₁, hrun, -⟩ := run_pxNetworkQueueCreate_fails cfg x hno
  rw [hrun] at h
  cases h

theorem pxNetworkQueueCreate_inv {created items : List Addr} (hlisted : Listed created items s)
    (h : (pxNetworkQueueCreate cfg x).run s = .ok a s') :
    a = s.w.calls ∧ Creates cfg x s s' ∧ Listed (created ++ [a]) (items ++ [s.w.calls + 2]) s' := by
  obtain ⟨s₁, hrun, hcreates, hlisted'⟩ := run_pxNetworkQueueCreate hlisted (allocates_of_run h)
  rw [hrun] at h
  cases h
  exact ⟨rfl, hcreates, hlisted'⟩

theorem creates_iff {created items : List Addr} (hlisted : Listed created items s) (cfg : Config) :
    (∀ x s', (pxNetworkQueueCreate cfg x).run s ≠ .error (.code .null) s') ↔ s.MemoryLeft := by
  constructor
  · intro h
    by_contra hleft
    by_cases hmem : s.Allocates
    · exact hleft ⟨hmem.queue, fun _ => hmem.node⟩
    · obtain ⟨e, s', hrun, he⟩ := run_pxNetworkQueueCreate_fails cfg ⟨.eSendRecv, 0, none, none⟩ hmem
      obtain rfl := he.mpr hleft
      exact h _ s' hrun
  · intro hleft x s' hrun
    by_cases hmem : s.Allocates
    · obtain ⟨s₁, hok, -⟩ := run_pxNetworkQueueCreate hlisted hmem
      rw [hok] at hrun
      cases hrun
    · obtain ⟨e, s₁, herror, he⟩ := run_pxNetworkQueueCreate_fails cfg x hmem
      rw [herror] at hrun
      cases hrun
      exact he.mp rfl hleft

/-! ## Freeing a queue -/

theorem vNetworkQueueFree_inv (h : (vNetworkQueueFree a).run s = .ok () s') :
    ∃ q, s.queueAt a = some q ∧ s' = { s with
      w := { s.w with queues := Function.update s.w.queues q.xQueue [] }
      queueAt := Function.update s.queueAt a none } := by
  rw [vNetworkQueueFree, EStateM.run_bind, run_reads, loadQueue] at h
  cases hq : s.queueAt a with
  | none =>
      rw [hq] at h
      cases h
  | some q =>
      rw [hq] at h
      cases h
      exact ⟨q, rfl, rfl⟩

/-! ## Every sequence of calls -/

/-- The live queues have blocks, and kernel queues of their own. -/
structure Alive (live : List Addr) (s : Registry) : Prop where
  block : ∀ a ∈ live, ∃ q, s.queueAt a = some q ∧ q.fnFilter.isSome ∧ q.xQueue < s.w.calls
  own : ∀ a ∈ live, ∀ b ∈ live, ∀ p q, s.queueAt a = some p → s.queueAt b = some q → p.xQueue = q.xQueue → a = b

/-- The list holds all queues that were ever created. -/
structure RegistryInv (created items live : List Addr) (s : Registry) : Prop where
  listed : Listed created items s
  created_lt : ∀ a ∈ created, a < s.w.calls
  nodup : created.Nodup
  sublist : live.Sublist created
  alive : Alive live s

def RegistryCall.isFree : RegistryCall → Bool
  | .create _ => false
  | .free _ => true

section Inv

variable {created items live : List Addr}

theorem Alive.frame (h : Alive live s) (hqueueAt : ∀ a ∈ live, s'.queueAt a = s.queueAt a)
    (hcalls : s.w.calls ≤ s'.w.calls) : Alive live s' where
  block a ha := by
    obtain ⟨q, hq, hfilter, hlt⟩ := h.block a ha
    exact ⟨q, (hqueueAt a ha).trans hq, hfilter, Nat.lt_of_lt_of_le hlt hcalls⟩
  own a ha b hb p q hp hq := h.own a ha b hb p q (by rw [← hqueueAt a ha, hp]) (by rw [← hqueueAt b hb, hq])

theorem Alive.sublist {live' : List Addr} (h : Alive live s) (hsub : live'.Sublist live) : Alive live' s where
  block a ha := h.block a (hsub.subset ha)
  own a ha b hb := h.own a (hsub.subset ha) b (hsub.subset hb)

theorem RegistryInv.create (h : RegistryInv created items live s) (hrun : (pxNetworkQueueCreate cfg x).run s = .ok a s') :
    RegistryInv (created ++ [a]) (items ++ [s.w.calls + 2]) (live ++ [a]) s' := by
  obtain ⟨rfl, hcreates, hlisted⟩ := pxNetworkQueueCreate_inv h.listed hrun
  have hnew : ∀ b ∈ created, b ≠ s.w.calls := fun b hb => Nat.ne_of_lt (h.created_lt b hb)
  have hcalls : s'.w.calls = s.w.calls + 3 := by rw [hcreates.w]; rfl
  have hold : ∀ b ∈ live, s'.queueAt b = s.queueAt b := fun b hb => by
    rw [hcreates.queueAt, Function.update_of_ne (hnew b (h.sublist.subset hb))]
  have halive : Alive live s' := h.alive.frame hold (by rw [hcalls]; exact Nat.le_add_right _ 3)
  have hself : s'.queueAt s.w.calls = some (x.block (s.w.calls + 1)) := by
    rw [hcreates.queueAt, Function.update_self]
  refine ⟨hlisted, ?_, ?_, h.sublist.append (List.Sublist.refl _), ?_, ?_⟩
  · intro b hb
    rw [hcalls]
    rcases List.mem_append.mp hb with hb | hb
    · exact Nat.lt_add_right 3 (h.created_lt b hb)
    · rw [List.mem_singleton.mp hb]
      exact Nat.lt_add_of_pos_right (by decide)
  · refine List.nodup_append.mpr ⟨h.nodup, List.nodup_singleton _, ?_⟩
    intro b hb c hc
    rw [List.mem_singleton.mp hc]
    exact hnew b hb
  · intro b hb
    rcases List.mem_append.mp hb with hb | hb
    · exact halive.block b hb
    · rw [List.mem_singleton.mp hb]
      exact ⟨_, hself, rfl, by rw [hcalls]; exact Nat.add_lt_add_left (by decide : 1 < 3) _⟩
  · -- the new kernel queue has a number that no older one has
    have hne : ∀ b ∈ live, ∀ q p, s'.queueAt b = some q → s'.queueAt s.w.calls = some p → q.xQueue ≠ p.xQueue := by
      intro b hb q p hq hp
      obtain ⟨q', hq', -, hlt⟩ := h.alive.block b hb
      rw [hold b hb, hq'] at hq
      rw [hself] at hp
      cases hq
      cases hp
      exact Nat.ne_of_lt (Nat.lt_succ_of_lt hlt)
    intro b hb c hc p q hp hq heq
    rcases List.mem_append.mp hb with hb | hb <;> rcases List.mem_append.mp hc with hc | hc
    · exact halive.own b hb c hc p q hp hq heq
    · rw [List.mem_singleton.mp hc] at hq
      exact absurd heq (hne b hb p q hp hq)
    · rw [List.mem_singleton.mp hb] at hp
      exact absurd heq.symm (hne c hc q p hq hp)
    · rw [List.mem_singleton.mp hb, List.mem_singleton.mp hc]

theorem RegistryInv.free (h : RegistryInv created items live s) (hrun : (vNetworkQueueFree a).run s = .ok () s') :
    RegistryInv created items (live.erase a) s' := by
  obtain ⟨q, -, rfl⟩ := vNetworkQueueFree_inv hrun
  have hnodup : live.Nodup := h.nodup.sublist h.sublist
  refine ⟨h.listed.frame (fun _ _ => rfl) rfl (Nat.le_refl _) rfl, h.created_lt, h.nodup,
    List.erase_sublist.trans h.sublist, (h.alive.sublist List.erase_sublist).frame (fun b hb => ?_) (Nat.le_refl _)⟩
  exact Function.update_of_ne (hnodup.mem_erase_iff.mp hb).1 _ _

/-- The list goes on to hold the queues that were freed. -/
theorem RegistryRun.inv {calls : List RegistryCall} (h : RegistryRun cfg calls live s) :
    ∃ created items, RegistryInv created items live s ∧
      created.length = live.length + calls.countP RegistryCall.isFree := by
  induction h with
  | boot env =>
      have hno : ∀ {p : Addr → Prop}, ∀ a ∈ ([] : List Addr), p a := fun _ h => absurd h List.not_mem_nil
      exact ⟨[], [], ⟨⟨.here none, rfl, hno, rfl⟩, hno, List.nodup_nil, List.Sublist.refl _, ⟨hno, hno⟩⟩, rfl⟩
  | other h hcalls ih =>
      obtain ⟨created, items, hinv, hlen⟩ := ih
      exact ⟨created, items, ⟨hinv.listed.frame (fun _ _ => rfl) rfl hcalls rfl,
        fun a ha => Nat.lt_of_lt_of_le (hinv.created_lt a ha) hcalls, hinv.nodup, hinv.sublist,
        hinv.alive.frame (fun _ _ => rfl) hcalls⟩, hlen⟩
  | create h hrun ih =>
      obtain ⟨created, items, hinv, hlen⟩ := ih
      refine ⟨_, _, hinv.create hrun, ?_⟩
      simp [RegistryCall.isFree, hlen]
      omega
  | @free calls live s s' a h ha hrun ih =>
      obtain ⟨created, items, hinv, hlen⟩ := ih
      refine ⟨_, _, hinv.free hrun, ?_⟩
      have hpos := List.length_pos_of_mem ha
      simp [RegistryCall.isFree, hlen, List.length_erase_of_mem ha]
      omega

end Inv

end FreeRtosTsn.Scheduler.Registry
