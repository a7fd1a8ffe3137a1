import FreeRtosTsn.Node.Lemmas.Calls

/-!
# One step and the buffers

A step of the node moves a buffer from one place to another, or brings a new one.
-/

namespace FreeRtosTsn.Node

open Lib Kernel Packet Scheduler Resources

variable {cfg : Config} {w w' : World} {b : BufId} {r : Nat} {held lost : List BufId} {s s' : BufferState}
  {serving : Option (NetworkQueue × NetworkQueueItem)}

/-! ## One buffer -/

theorem count_eq (s : BufferState) (b : BufId) (p : Place) : Place.count s b p = (Place.buffers s p).count b := by
  cases p with
  | queue q =>
      simp only [Place.count, Place.buffers, List.count, List.countP_filterMap]
      congr
      funext xItem
      cases xItem.pxBuf <;> rfl
  | stack p =>
      cases p with
      | released =>
          simp only [Place.count, BufPlace.count, Place.buffers, stackBuffers, releases, List.count, List.countP_map]
          rfl
      | _ => rfl
  | _ => rfl

/-- What tasks and the driver have, and what was lost. -/
def outside (held lost : List BufId) : Place → List BufId
  | .held => held
  | .lost => lost
  | _ => []

/-- What the controller serves. -/
def served (serving : Option (NetworkQueue × NetworkQueueItem)) : Place → List BufId
  | .queue q => (inHand serving q).filterMap (·.pxBuf)
  | _ => []

theorem buffers_eq (w : World) (held lost : List BufId) (serving : Option (NetworkQueue × NetworkQueueItem)) :
    Place.buffers ⟨w, held, lost, serving⟩ = fun p => served serving p ++ (placed w p ++ outside held lost p) := by
  funext p
  cases p <;> simp [placed, Place.buffers, BufferState.items, inHand, outside, served]

theorem outside_line (p : Place) (hp : p.IsLine) : outside held lost p = [] := by
  cases p <;> first | rfl | exact hp.elim

theorem Stays.buffers (h : Stays w w') :
    Place.buffers ⟨w', held, lost, serving⟩ = Place.buffers ⟨w, held, lost, serving⟩ := by
  rw [buffers_eq, buffers_eq, h.eq]

theorem Gives.buffers (h : Gives r b w w') (held lost : List BufId)
    (serving : Option (NetworkQueue × NetworkQueueItem)) : ∃ p : Place, r < p.rank ∧
      Joins Place.IsLine b p (Place.buffers ⟨w, held, lost, serving⟩)
        (Place.buffers ⟨w', held, lost, serving⟩) := by
  obtain ⟨p, hp, hjoins⟩ := h.joins
  rw [buffers_eq, buffers_eq]
  exact ⟨p, hp, (hjoins.append outside_line).prepend _⟩

theorem Takes.buffers (h : Takes 2 b w w') (held lost : List BufId)
    (serving : Option (NetworkQueue × NetworkQueueItem)) : ∃ p : Place, p.rank = 2 ∧
      Leaves Place.IsLine b p (Place.buffers ⟨w, held, lost, serving⟩)
        (Place.buffers ⟨w', held, lost, serving⟩) := by
  obtain ⟨p, hp, hleaves⟩ := h.leaves
  rw [buffers_eq, buffers_eq]
  refine ⟨p, hp, (hleaves.append outside_line).prepend ?_⟩
  cases p with
  | queue q => simp [Place.rank] at hp
  | _ => rfl

/-- A task or the driver gets it. -/
theorem Stays.joins_held (h : Stays w w') : Joins Place.IsLine b .held (Place.buffers ⟨w, held, lost, serving⟩)
    (Place.buffers ⟨w', b :: held, lost, serving⟩) := by
  rw [buffers_eq, buffers_eq, h.eq]
  exact ⟨.refl _, fun hline => hline.elim, fun p hp => by cases p <;> first | rfl | exact absurd rfl hp⟩

/-- Nobody has it any more. -/
theorem Stays.joins_lost (h : Stays w w') : Joins Place.IsLine b .lost (Place.buffers ⟨w, held, lost, serving⟩)
    (Place.buffers ⟨w', held, b :: lost, serving⟩) := by
  rw [buffers_eq, buffers_eq, h.eq]
  exact ⟨.refl _, fun hline => hline.elim, fun p hp => by cases p <;> first | rfl | exact absurd rfl hp⟩

/-- What a task or the driver gives away. -/
theorem leaves_held (hb : b ∈ held) : Leaves Place.IsLine b .held (Place.buffers ⟨w, held, lost, serving⟩)
    (Place.buffers ⟨w, held.erase b, lost, serving⟩) :=
  ⟨List.perm_cons_erase hb, fun hline => hline.elim, fun p hp => by cases p <;> first | rfl | exact absurd rfl hp⟩

/-! ## One step -/

structure Conserves (s s' : BufferState) : Prop where
  calls_le : s.w.calls ≤ s'.w.calls
  sockets : ∀ k, s'.w.calls ≤ k → s.w.baseSockets k = none → s'.w.baseSockets k = none
  items : ∀ q, ∀ i ∈ s'.items q, i ∈ s.items q ∨ i.xReleaseAfterSend = true
  move : Move Place.IsLine Place.rank (fun b => s.w.calls ≤ b ∧ b < s'.w.calls) (Place.buffers s) (Place.buffers s')

/-- A call that the controller's item does not matter to. -/
theorem Aside.conserves (h : Aside s.w s'.w) (hserving : ∀ q, ∀ i ∈ inHand s'.serving q, i ∈ inHand s.serving q)
    (hmove : Move Place.IsLine Place.rank (fun b => s.w.calls ≤ b ∧ b < s'.w.calls) (Place.buffers s)
      (Place.buffers s')) : Conserves s s' where
  calls_le := h.calls_le
  sockets := h.sockets
  items q i hi := by
    rw [BufferState.items, List.mem_append] at hi
    rcases hi with hi | hi
    · exact .inl (List.mem_append_left _ (hserving q i hi))
    · exact (h.items q i hi).imp_left fun hi => List.mem_append_right _ hi
  move := hmove

theorem Stays.conserves (h : Stays w w') : Conserves ⟨w, held, lost, serving⟩ ⟨w', held, lost, serving⟩ :=
  h.toAside.conserves (fun _ _ hi => hi) (.stays fun p => by rw [h.buffers])

/-- The buffer is passed on. -/
theorem Gives.conserves {i : Place} (h : Gives r b w w') (ha : Aside s.w w)
    (hserving : ∀ q, ∀ x ∈ inHand serving q, x ∈ inHand s.serving q)
    (hleaves : Leaves Place.IsLine b i (Place.buffers s) (Place.buffers ⟨w, held, lost, serving⟩))
    (hr : i.rank ≤ r) :
    Conserves s ⟨w', held, lost, serving⟩ := by
  obtain ⟨p, hp, hjoins⟩ := h.buffers held lost serving
  exact (ha.trans h.toAside).conserves hserving (.passes (Nat.lt_of_le_of_lt hr hp) hleaves hjoins)

/-- Nobody gets what a task or the driver had. -/
theorem lost_conserves (hb : b ∈ held) :
    Conserves ⟨w, held, lost, serving⟩ ⟨w, held.erase b, b :: lost, serving⟩ :=
  (Aside.refl w).conserves (fun _ _ hi => hi)
    (.passes (i := .held) (j := .lost) (by decide) (leaves_held hb) (refl_of Stays w).joins_lost)

theorem Gives.conserves_new (h : Gives r b w w') (hge : w.calls ≤ b) (hlt : b < w'.calls) :
    Conserves ⟨w, held, lost, serving⟩ ⟨w', held, lost, serving⟩ := by
  obtain ⟨p, -, hjoins⟩ := h.buffers held lost serving
  exact h.toAside.conserves (fun _ _ hi => hi) (.comes ⟨hge, hlt⟩ hjoins)

/-! ## Closing -/

theorem waiting_closedBase {k : SockId} {x : BaseSocket} (j : SockId) :
    waiting (closedBase w k x) j = if j = k then [] else waiting w j := by
  by_cases hj : j = k
  · subst hj
    simp [closedBase, waiting]
  · simp [closedBase, waiting, hj]

/-- All that waited at the socket is released. -/
theorem closedBase_conserves {k : SockId} {x : BaseSocket} (hx : w.baseSockets k = some x) :
    Conserves ⟨w, held, lost, serving⟩ ⟨closedBase w k x, held, lost, serving⟩ where
  calls_le := Nat.le_refl _
  sockets j _ hnone := by
    by_cases hj : j = k
    · subst hj
      simp [closedBase]
    · simpa [closedBase, hj] using hnone
  items _ _ h := .inl h
  move := by
    have hold : waiting w k = x.xWaitingPacketsList := by simp [waiting, hx]
    refine .emptied (i := .stack (.waiting k)) (j := .stack .released) (Nat.lt_succ_self 2) id ?_ ?_ ?_
    · simp [Place.buffers, stackBuffers, waiting_closedBase]
    · simp [Place.buffers, stackBuffers, closedBase, hold, Function.comp_def]
    · intro p hk hr
      cases p with
      | stack p =>
          cases p with
          | waiting j =>
              have hj : j ≠ k := fun hj => hk (by rw [hj])
              simp [Place.buffers, stackBuffers, waiting_closedBase, hj]
          | released => exact absurd rfl hr
          | _ => rfl
      | _ => rfl

theorem Stays.before {w₁ : World} (h : Stays w w₁)
    (h' : Conserves ⟨w₁, held, lost, serving⟩ ⟨w', held, lost, serving⟩) :
    Conserves ⟨w, held, lost, serving⟩ ⟨w', held, lost, serving⟩ where
  calls_le := h.calls_le.trans h'.calls_le
  sockets k hk hnone := h'.sockets k hk (h.sockets k (h'.calls_le.trans hk) hnone)
  items q i hi := by
    have h₁ : Conserves ⟨w, held, lost, serving⟩ ⟨w₁, held, lost, serving⟩ := h.conserves
    exact (h'.items q i hi).elim (h₁.items q i) .inr
  move := by
    rw [← h.buffers]
    exact h'.move.mono fun _ hnew => ⟨h.calls_le.trans hnew.1, hnew.2⟩

theorem socket_conserves {a : SocketCall} {opened opened' : List Addr}
    (hfresh : ∀ k, w.calls ≤ k → w.baseSockets k = none) (h : (a.run cfg opened).run w = .ok opened' w') :
    Conserves ⟨w, held, lost, serving⟩ ⟨w', held, lost, serving⟩ := by
  cases a with
  | socket bIsIPv6 xType =>
      obtain ⟨r, w₁, hrun, h₁⟩ := run_bind_inv h
      have hstays := (freeRtosTsnSocket_staysFresh cfg bIsIPv6 xType).ok hrun hfresh
      cases r <;> cases h₁ <;> exact hstays.conserves
  | bind t sinPort =>
      obtain ⟨r, w₁, hrun, h₁⟩ := run_bind_inv h
      cases h₁
      exact (freeRtosTsnBind_stays hrun).conserves
  | closesocket t =>
      obtain ⟨_, w₁, hrun, h₁⟩ := run_bind_inv h
      cases h₁
      obtain ⟨_, w₂, hremove, h₂⟩ := run_bind_inv hrun
      obtain ⟨-, rfl⟩ := vTsnSocketRemove_inv hremove
      obtain ⟨s, w₃, hload, h₃⟩ := run_bind_inv h₂
      obtain ⟨rfl, -⟩ := loadTsnSocket_inv hload
      obtain ⟨x, hx, rfl⟩ := freeRtosClosesocket_inv h₃
      have hunlisted : Stays w (unlisted w t) := .of_eq rfl (Nat.le_refl _)
      exact hunlisted.before (closedBase_conserves hx)

/-! ## Serving -/

section Serve

variable {xItem : NetworkQueueItem} {pxQueue : NetworkQueue}

/-- The item is still at its queue. -/
theorem pop_items {rest : List NetworkQueueItem} (hq : w.queues pxQueue.xQueue = xItem :: rest) (j : QueueHandle) :
    BufferState.items ⟨{ w with queues := Function.update w.queues pxQueue.xQueue rest }, held, lost,
      some (pxQueue, xItem)⟩ j = BufferState.items ⟨w, held, lost, none⟩ j := by
  by_cases hj : pxQueue.xQueue = j
  · subst hj
    simp [BufferState.items, inHand, hq]
  · simp [BufferState.items, inHand, hj, Function.update_of_ne (Ne.symm hj)]

theorem pop_conserves {rest : List NetworkQueueItem} (hq : w.queues pxQueue.xQueue = xItem :: rest) :
    Conserves ⟨w, held, lost, none⟩ ⟨{ w with queues := Function.update w.queues pxQueue.xQueue rest }, held, lost,
      some (pxQueue, xItem)⟩ where
  calls_le := Nat.le_refl _
  sockets _ _ hnone := hnone
  items j i hi := .inl (pop_items hq j ▸ hi)
  move := by
    refine .stays fun p => ?_
    cases p with
    | queue j => rw [Place.buffers, Place.buffers, pop_items hq]
    | _ => rfl

/-- It leaves its queue when it is served. -/
theorem leaves_served (hb : xItem.pxBuf = some b) : Leaves Place.IsLine b (.queue pxQueue.xQueue)
    (Place.buffers ⟨w, held, lost, some (pxQueue, xItem)⟩) (Place.buffers ⟨w, held, lost, none⟩) := by
  refine .of_cons ?_ fun p hp => ?_
  · simp [Place.buffers, BufferState.items, inHand, hb]
  · cases p with
    | queue j =>
        have hj : pxQueue.xQueue ≠ j := fun hj => hp (by rw [hj])
        simp [Place.buffers, BufferState.items, inHand, hj]
    | _ => rfl

theorem served_none (hb : xItem.pxBuf = none) :
    Place.buffers ⟨w, held, lost, some (pxQueue, xItem)⟩ = Place.buffers ⟨w, held, lost, none⟩ := by
  funext p
  cases p with
  | queue j => by_cases hj : pxQueue.xQueue = j <;> simp [Place.buffers, BufferState.items, inHand, hj, hb]
  | _ => rfl

theorem inHand_none (q : QueueHandle) : ∀ i ∈ inHand none q, i ∈ inHand serving q := fun _ hi => nomatch hi

/-- The controller passes a frame to the driver and does not keep it. -/
theorem prvServeItem_tx (hc : w.bCallingFromController = true) (he : xItem.eEventType = .eNetworkTxEvent)
    (hr : xItem.xReleaseAfterSend = true) (h : (prvServeItem cfg pxQueue xItem).run w = .ok () w') :
    ∃ b, xItem.pxBuf = some b ∧ Gives 2 b w w' := by
  rw [prvServeItem, if_pos he] at h
  cases hb : xItem.pxBuf with
  | none =>
      rw [hb] at h
      cases h
  | some b =>
      rw [hb] at h
      obtain ⟨b', w₁, hderef, h₁⟩ := run_bind_inv h
      cases hderef
      obtain ⟨d, w₂, hbuf, h₂⟩ := run_bind_inv h₁
      cases hbuf
      obtain ⟨e, w₃, hend, h₃⟩ := run_bind_inv h₂
      obtain ⟨w₄, w₅, hget, h₄⟩ := run_bind_inv h₃
      obtain ⟨_, w₆, hfree, h₅⟩ := run_bind_inv h₄
      obtain ⟨r, w₇, hout, h₆⟩ := run_bind_inv h₅
      cases hget
      cases h₆
      have hw₃ := (deref_stays _).ok hend
      have hw₆ := trans_of Stays hw₃ ((vFreeAllNotNull_stays _).ok hfree)
      refine ⟨_, rfl, hw₆.gives ?_⟩
      have hc₃ := ((deref_serveKeeps _).ok hend).bCallingFromController
      have hc₆ := ((vFreeAllNotNull_serveKeeps _).ok hfree).bCallingFromController.trans (hc₃.trans hc)
      rw [hr, xTsnNetworkInterfaceOutput, run_bind_ok (EStateM.run_get _), if_pos hc₆] at hout
      exact prvOutputFromController_gives cfg _ _ hout

/-- Serving gives the buffer of the item to somebody, or forgets it. -/
theorem Served.buffers (hr : xItem.xReleaseAfterSend = true) (h : Served cfg pxQueue xItem w w') :
    (∃ b, xItem.pxBuf = some b ∧ forgotten w xItem = [] ∧ Gives 1 b w w') ∨
      (Stays w w' ∧ forgotten w xItem = xItem.pxBuf.toList) := by
  obtain ⟨w₁, hrun, rfl⟩ := h
  have hasCtl : Stays w (asController w) := .of_eq rfl (Nat.le_refl _)
  have hresumed : Stays w₁ (resumed w w₁) := .of_eq rfl (Nat.le_refl _)
  by_cases he : xItem.eEventType = .eNetworkTxEvent
  · obtain ⟨b, hb, hgives⟩ := prvServeItem_tx rfl he hr hrun
    exact .inl ⟨b, hb, by simp [forgotten, he], ((hasCtl.gives hgives).stays hresumed).mono (Nat.le_succ 1)⟩
  · rw [prvServeItem, if_neg he] at hrun
    cases hb : xItem.pxBuf with
    | none =>
        cases prvDeliverFrame_ignores (by simp [hb]) hrun
        exact .inr ⟨trans_of Stays hasCtl hresumed, by simp [forgotten, he, hb]⟩
    | some b =>
        cases hig : ignores (w.bufs b) with
        | true =>
            have hall : ∀ c, xItem.pxBuf = some c → ignores ((asController w).bufs c) = true := by
              intro c hc
              cases hb.symm.trans hc
              exact hig
            cases prvDeliverFrame_ignores hall hrun
            exact .inr ⟨trans_of Stays hasCtl hresumed, by simp [forgotten, he, hb, hig]⟩
        | false =>
            have hgives := prvDeliverFrame_gives (w := asController w) hb hig hrun
            exact .inl ⟨b, rfl, by simp [forgotten, he, hb, hig], (hasCtl.gives hgives).stays hresumed⟩

theorem Served.conserves (hr : xItem.xReleaseAfterSend = true) (h : Served cfg pxQueue xItem w w') :
    Conserves ⟨w, held, lost, some (pxQueue, xItem)⟩ ⟨w', held, forgotten w xItem ++ lost, none⟩ := by
  rcases h.buffers hr with ⟨b, hb, hnone, hgives⟩ | ⟨hstays, hforgot⟩
  · rw [show forgotten w xItem = [] from hnone]
    exact hgives.conserves (.refl w) inHand_none (leaves_served hb) (Nat.le_refl 1)
  · rw [show forgotten w xItem = xItem.pxBuf.toList from hforgot]
    refine hstays.toAside.conserves inHand_none ?_
    cases hb : xItem.pxBuf with
    | none => exact .stays fun p => by rw [served_none hb, ← hstays.buffers]; rfl
    | some b =>
        exact .passes (i := .queue pxQueue.xQueue) (j := .lost) (by simp [Place.rank]) (leaves_served hb)
          hstays.joins_lost

end Serve

/-! ## Every step -/

/-- Every buffer is in one place at most, and in none before its name is used. -/
structure BufferState.Ok (s : BufferState) : Prop where
  once : ∀ b, OnceOrNever (Place.count s b)
  fresh : ∀ b, s.w.calls ≤ b → ∀ p, Place.count s b p = 0
  items : ∀ q, ∀ i ∈ s.items q, i.xReleaseAfterSend = true
  baseSockets : ∀ k, s.w.calls ≤ k → s.w.baseSockets k = none

theorem BufferState.Starts.ok (h : s.Starts) : s.Ok where
  once b := .inr (h.nowhere b)
  fresh b _ := h.nowhere b
  items q i hi := by
    rw [BufferState.items, h.serving, h.queues q] at hi
    exact absurd hi List.not_mem_nil
  baseSockets k _ := h.baseSockets k

theorem Conserves.counts (h : Conserves s s') (b : BufId) : Passed (Place.count s b) (Place.count s' b) ∨
    (s.w.calls ≤ b ∧ b < s'.w.calls) ∧ ∃ p, Added p (Place.count s b) (Place.count s' b) := by
  rw [funext (count_eq s b), funext (count_eq s' b)]
  exact h.move.counts b

theorem Conserves.ok (h : Conserves s s') (hs : s.Ok) : s'.Ok where
  once b := by
    rcases h.counts b with hpassed | ⟨⟨hge, -⟩, p, hp⟩
    · exact hpassed.onceOrNever (hs.once b)
    · exact .inl (hp.once (hs.fresh b hge))
  fresh b hb := by
    rcases h.counts b with hpassed | ⟨⟨-, hlt⟩, -⟩
    · exact hpassed.never (hs.fresh b (h.calls_le.trans hb))
    · exact absurd hlt (Nat.not_lt.mpr hb)
  items q i hi := (h.items q i hi).elim (hs.items q i) id
  baseSockets k hk := h.sockets k hk (hs.baseSockets k (h.calls_le.trans hk))

/-- What is in one place stays in one place. -/
theorem Conserves.once (h : Conserves s s') (hs : s.Ok) {b : BufId} (hb : Once (Place.count s b)) :
    Once (Place.count s' b) := by
  rcases h.counts b with hpassed | ⟨⟨hge, -⟩, -⟩
  · exact hpassed.once hb
  · exact absurd (hs.fresh b hge) hb.not_zero

theorem BuffersStay.stays (h : BuffersStay w w') : Stays w w' where
  calls_le := h.calls_le
  sockets := h.sockets
  items q i hi := by
    rw [h.queues] at hi
    exact .inl hi
  placed := placed_congr h.queues h.released h.ipTaskEvents h.udpProcessed h.waiting

theorem BufferStep.conserves (hs : s.Ok) (h : BufferStep cfg s s') : Conserves s s' := by
  have hserving : ∀ q, ∀ i ∈ inHand s.serving q, i ∈ inHand s.serving q := fun _ _ hi => hi
  cases h with
  | allocate hrun =>
      obtain ⟨hstays, hcalls, hnew⟩ := pxGetNetworkBuffer_inv hrun
      obtain rfl := hnew _ rfl
      exact hstays.toAside.conserves hserving (.comes ⟨Nat.le_refl _, by simp [hcalls]⟩ hstays.joins_held)
  | @release b hb => exact (Gives.release s.w b).conserves (.refl _) hserving (leaves_held hb) (Nat.zero_le 2)
  | @receive _ b _ r _ hb hrun =>
      have hgives := xSendEventStructToTsnController_gives hrun
      cases r with
      | true =>
          have hgives : Gives 0 b s.w _ := hgives
          exact hgives.conserves (.refl _) hserving (leaves_held hb) (Nat.le_refl 0)
      | false => exact Stays.conserves hgives
  | @output _ b r _ hb hc hrun =>
      rw [xTsnNetworkInterfaceOutput, run_bind_ok (EStateM.run_get _), if_neg (by simp [hc])] at hrun
      have hinsert := insert_gives rfl rfl hrun
      cases r with
      | true =>
          have hgives : Gives 0 b s.w _ := hinsert
          exact hgives.conserves (.refl _) hserving (leaves_held hb) (Nat.le_refl 0)
      | false =>
          cases hinsert
          exact lost_conserves hb
  | sendto hrun =>
      rcases freeRtosTsnSendto_buffers hrun with hstays | ⟨hgives, hlt⟩
      · exact hstays.conserves
      · exact hgives.conserves_new (Nat.le_refl _) hlt
  | recvmsg hpeek hrun =>
      rcases freeRtosTsnRecvmsg_buffers hpeek hrun with hstays | ⟨b, w₁, htakes, hgives⟩
      · exact hstays.conserves
      · obtain ⟨p, hp, hleaves⟩ := htakes.buffers s.held s.lost s.serving
        exact hgives.conserves htakes.toAside hserving hleaves hp.le
  | socket hrun => exact socket_conserves hs.baseSockets hrun
  | setsockopt hrun => exact ((freeRtosTsnSetsockopt_stays _ _ _).ok hrun).conserves
  | pop hidle hq =>
      obtain ⟨w, held, lost, serving⟩ := s
      cases hidle
      exact pop_conserves hq
  | @serve pxQueue xItem _ hserves hserved =>
      obtain ⟨w, held, lost, serving⟩ := s
      cases hserves
      exact hserved.conserves (hs.items pxQueue.xQueue xItem (by simp [BufferState.items, inHand]))
  | other hstay => exact hstay.stays.conserves

end FreeRtosTsn.Node
