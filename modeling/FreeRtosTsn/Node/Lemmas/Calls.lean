import FreeRtosTsn.Node.Lemmas.Buffers
import FreeRtosTsn.Resources.Lemmas.Table
import FreeRtosTsn.Resources.Lemmas.Timebase

/-!
# Where the calls of users and of the driver leave the buffers

What the calls do that queue buffers, and those that take them from the waiting lists.
-/

namespace FreeRtosTsn.Node

open Lib Kernel Packet Scheduler Resources

variable {cfg : Config} {w w' : World} {b : BufId}

/-! ## The network queues -/

/-- A queue takes an item that is to be released. -/
theorem Gives.push {xItem : NetworkQueueItem} {q : QueueHandle} (h : Pushed w w' q xItem) (hb : xItem.pxBuf = some b)
    (hr : xItem.xReleaseAfterSend = true) : Gives 0 b w w' := by
  have hqueues : ∀ j, w'.queues j = w.queues j ++ if j = q then [xItem] else [] := by
    intro j
    rw [h.eq]
    by_cases hj : j = q <;> simp [hj]
  refine ⟨⟨by rw [h.eq], fun j _ hnone => by rw [h.eq]; exact hnone, fun j i hi => ?_⟩, .queue q, Nat.zero_lt_one,
    .of_append (by simp [placed, Place.buffers, BufferState.items, hqueues, hb]) fun p hp => ?_⟩
  · rw [hqueues j, List.mem_append] at hi
    refine hi.imp_right fun hi => ?_
    split at hi
    · rw [List.mem_singleton.mp hi, hr]
    · exact absurd hi List.not_mem_nil
  · cases p with
    | queue j =>
        have hj : j ≠ q := fun hj => hp (by rw [hj])
        simp [placed, Place.buffers, BufferState.items, hqueues, hj]
    | stack p => rw [h.eq]; cases p <;> rfl
    | _ => rfl

/-- A queue takes the item, or nothing is done. -/
theorem insert_gives {xItem : NetworkQueueItem} {uxTimeout : Nat} {r : Bool} (hb : xItem.pxBuf = some b)
    (hr : xItem.xReleaseAfterSend = true)
    (h : (exec cfg (xNetworkQueueInsertPacketByFilter cfg xItem uxTimeout)).run w = .ok r w') :
    if r then Gives 0 b w w' else w' = w := by
  by_cases ha : Accepts cfg w xItem
  · obtain ⟨w₁, q, hrun, -, hpush⟩ := exec_insert_accepted ha uxTimeout
    cases hrun.symm.trans h
    exact .push hpush hb hr
  · cases (exec_insert_refused ha uxTimeout).symm.trans h
    rfl

/-! ## Reception -/

theorem prvRemoveTags_stays (b : BufId) (uxNumTags : Nat) : Keeps Stays (prvRemoveTags b uxNumTags) := by
  apply (loadBuf_stays b).bind
  intro d
  apply (moveBytes_stays _ _ _ _).bind
  intro _
  exact modifyBuf_stays b _

theorem load16_stays (p : Ptr) (off : Nat) : Keeps Stays (load16 p off) := (load16_reads p off).mono Reads.stays

theorem prvStripVLANTag_stays (b : BufId) : Keeps Stays (prvStripVLANTag b) := by
  apply ((ucGetNumberOfTags_reads b).mono Reads.stays).bind
  intro uxNumTags
  apply (loadBuf_stays b).bind
  intro d
  split
  · exact Keeps.pure _
  · exact (load16_stays _ _).bind fun _ => (prvRemoveTags_stays b 1).bind fun _ => Keeps.pure _
  · exact (load16_stays _ _).bind fun _ => (load16_stays _ _).bind fun _ =>
      (prvRemoveTags_stays b _).bind fun _ => Keeps.pure _

theorem prvParseFrame_stays (b : BufId) : Keeps Stays (prvParseFrame b) := by
  apply (loadBuf_stays b).bind
  intro d
  apply (prvStripVLANTag_stays b).bind
  intro _
  apply (load16_stays _ _).bind
  intro usFrameType
  apply ((prvParseNetwork_reads _ _).mono Reads.stays).bind
  rintro ⟨ucProtocol, xDestinationAddr, uxPrefix⟩
  apply ((prvParsePorts_reads _ _ _).mono Reads.stays).bind
  rintro ⟨usDestinationPort, usSourcePort⟩
  exact (modifyBuf_stays b _).bind fun _ => Keeps.pure _

theorem prvHandleReceive_stays (b : BufId) : Keeps Stays (prvHandleReceive b) := by
  apply (prvParseFrame_stays b).bind
  intro f
  apply ((prvMsghFor_heapStep b f).mono HeapStep.stays).bind
  intro r
  cases r with
  | none => exact Keeps.pure _
  | some pxMsgh =>
      apply ((pvPortMalloc_heapStep _).mono HeapStep.stays).bind
      intro p
      cases p with
      | none => exact Keeps.pure _
      | some a => exact Keeps.pure _

/-- The item is for the buffer, which is to be released. -/
theorem prvHandleReceive_some {xItem : NetworkQueueItem} (h : (prvHandleReceive b).run w = .ok (some xItem) w') :
    xItem.pxBuf = some b ∧ xItem.xReleaseAfterSend = true := by
  obtain ⟨f, w₁, -, h⟩ := run_bind_inv h
  obtain ⟨r, w₂, -, h⟩ := run_bind_inv h
  cases r with
  | none => cases h
  | some pxMsgh =>
      obtain ⟨p, w₃, -, h⟩ := run_bind_inv h
      cases p with
      | none => cases h
      | some a =>
          cases h
          exact ⟨rfl, rfl⟩

/-- The driver keeps the buffer when the call fails. -/
theorem xSendEventStructToTsnController_gives {eEventType : IPEvent} {uxTimeout : Nat} {r : Bool}
    (h : (xSendEventStructToTsnController cfg eEventType b uxTimeout).run w = .ok r w') :
    if r then Gives 0 b w w' else Stays w w' := by
  rw [xSendEventStructToTsnController] at h
  split at h
  · obtain ⟨xItem, w₁, h₁, h₂⟩ := run_bind_inv h
    have hstays := (prvHandleReceive_stays b).ok h₁
    cases xItem with
    | none =>
        cases h₂
        exact hstays
    | some xItem =>
        obtain ⟨hb, hr⟩ := prvHandleReceive_some h₁
        have hinsert := insert_gives hb hr h₂
        cases r with
        | true => exact hstays.gives hinsert
        | false =>
            cases hinsert
            exact hstays
  · have htick : Stays w w.tick := .of_eq rfl (Nat.le_succ _)
    cases hok : w.env.xSendEventStructToIPTask w.calls <;> simp [xSendEventStructToIPTask, nextCall, hok] at h
    · obtain ⟨rfl, rfl⟩ := h
      exact htick
    · obtain ⟨rfl, rfl⟩ := h
      exact (htick.gives (.toIPTask w.tick b)).mono (Nat.zero_le 2)

/-! ## Sending -/

theorem pxGetNetworkBuffer_inv {n : Nat} {r : Option BufId}
    (h : (pxGetNetworkBufferWithDescriptor n).run w = .ok r w') :
    Stays w w' ∧ w'.calls = w.calls + 1 ∧ ∀ c, r = some c → c = w.calls := by
  rw [run_pxGetNetworkBuffer] at h
  split at h
  · cases h
    exact ⟨.of_eq rfl (Nat.le_succ _), rfl, fun c hc => (Option.some.inj hc).symm⟩
  · cases h
    exact ⟨.of_eq rfl (Nat.le_succ _), rfl, fun c hc => nomatch hc⟩

theorem writeFields_stays (p : Ptr) (fs : List (Nat × List UInt8)) : Keeps Stays (writeFields p fs) := by
  induction fs with
  | nil => exact Keeps.pure ()
  | cons f fs ih => exact (writeBytes_stays _ _ _).bind fun _ => ih

theorem prvPrepareBufferUDPv4_stays (cfg : Config) (s : TSNSocket) (b : BufId) :
    Keeps Stays (prvPrepareBufferUDPv4 cfg s b) := by
  rw [prvPrepareBufferUDPv4_eq]
  apply (loadBuf_stays b).bind
  intro d
  apply (writeFields_stays _ _).bind
  intro _
  apply Keeps.get
  intro w
  split
  · exact refl_of Stays w
  · refine ((writeFields_stays _ _).bind fun _ => (modifyBuf_stays b _).bind fun _ => Keeps.get fun w => ?_) w
    refine ((writeFields_stays _ _).bind fun _ => ?_) w
    split
    · exact Keeps.pure _
    · apply (writeFields_stays _ _).bind
      intro _
      apply Keeps.ite
      · exact (writeFields_stays _ _).bind fun _ => (modifyBuf_stays b _).bind fun _ => Keeps.pure _
      · exact Keeps.pure _

/-- The datagram is queued, or its buffer is released. -/
theorem prvSendDatagram_gives (cfg : Config) (s : TSNSocket) (x : BaseSocket) (p : List UInt8)
    (f : NetworkBufferDescriptor → NetworkBufferDescriptor) (uxMax uxOffset : Nat) (b : BufId) :
    GivesAfter 0 b (do
      modifyBuf b f
      if !(← prvPrepareBufferUDPv4 cfg s b) then
        vReleaseNetworkBufferAndDescriptor b
        return -errnoEagain
      if p.length > uxMax then
        vReleaseNetworkBufferAndDescriptor b
        return -errnoEinval
      let d ← loadBuf b
      writeBytes d.pucEthernetBuffer uxOffset p
      let w ← get
      match xTaskCheckForTimeOut x.xSendBlockTime (w.env.uxBlockedTicks w.calls) with
      | some xRemainingTime =>
          if ← exec cfg (xNetworkQueueInsertPacketByFilter cfg ⟨.eNetworkTxEvent, some b, none, true⟩
              xRemainingTime) then
            return (p.length : Int)
          else
            vReleaseNetworkBufferAndDescriptor b
            return -errnoEagain
      | none =>
          vReleaseNetworkBufferAndDescriptor b
          return -errnoEtimedout : M Int) := by
  have hrelease : ∀ r : Int, GivesAfter 0 b (do vReleaseNetworkBufferAndDescriptor b; return r) := fun r =>
    GivesAfter.mono (Nat.zero_le 2)
      (GivesAfter.bind (vReleaseNetworkBufferAndDescriptor_gives b) fun _ => Keeps.pure r)
  apply GivesAfter.after (modifyBuf_stays b f)
  intro _
  apply GivesAfter.after (prvPrepareBufferUDPv4_stays cfg s b)
  intro ok
  apply GivesAfter.ite (hrelease _)
  apply GivesAfter.ite (hrelease _)
  apply GivesAfter.after (loadBuf_stays b)
  intro d
  apply GivesAfter.after (writeBytes_stays _ _ _)
  intro _ w r w' h
  rw [run_bind_ok (EStateM.run_get w)] at h
  split at h
  · obtain ⟨bOk, w₁, h₁, h₂⟩ := run_bind_inv h
    have hinsert := insert_gives rfl rfl h₁
    cases bOk with
    | true =>
        cases h₂
        exact hinsert
    | false =>
        cases hinsert
        exact hrelease _ h₂
  · exact hrelease _ h

/-- A send moves at most the buffer that it gets, which is new. -/
theorem freeRtosTsnSendto_buffers {t : Addr} {p : List UInt8} {dest : Option Destination} {r : Int}
    (h : (freeRtosTsnSendto cfg t p dest).run w = .ok r w') :
    Stays w w' ∨ (Gives 0 w.calls w w' ∧ w.calls < w'.calls) := by
  rw [freeRtosTsnSendto] at h
  obtain ⟨s, w₁, hload, h₁⟩ := run_bind_inv h
  obtain ⟨rfl, -⟩ := loadTsnSocket_inv hload
  obtain ⟨x, w₂, hbase, h₂⟩ := run_bind_inv h₁
  obtain ⟨rfl, -⟩ := loadBaseSocket_inv hbase
  cases dest with
  | none =>
      cases h₂
      exact .inl (refl_of Stays _)
  | some dest =>
      dsimp only at h₂
      split at h₂
      · cases h₂
        exact .inl (refl_of Stays _)
      · split at h₂
        · obtain ⟨r', w₃, hget, h₃⟩ := run_bind_inv h₂
          obtain ⟨hstays, hcalls, hnew⟩ := pxGetNetworkBuffer_inv hget
          cases r' with
          | none =>
              cases h₃
              exact .inl hstays
          | some b =>
              obtain rfl := hnew b rfl
              obtain ⟨u, w₄, hrelease, h₄⟩ := run_bind_inv h₃
              cases h₄
              have hgives := (vReleaseNetworkBufferAndDescriptor_gives _ hrelease).mono (Nat.zero_le 2)
              refine .inr ⟨hstays.gives hgives, ?_⟩
              exact Nat.lt_of_lt_of_le (by rw [hcalls]; exact Nat.lt_succ_self _) hgives.calls_le
        · split at h₂
          · obtain ⟨r', w₃, hget, h₃⟩ := run_bind_inv h₂
            obtain ⟨hstays, hcalls, hnew⟩ := pxGetNetworkBuffer_inv hget
            cases r' with
            | none =>
                cases h₃
                exact .inl hstays
            | some b =>
                obtain rfl := hnew b rfl
                have hgives := prvSendDatagram_gives _ _ _ _ _ _ _ _ h₃
                refine .inr ⟨hstays.gives hgives, ?_⟩
                exact Nat.lt_of_lt_of_le (by rw [hcalls]; exact Nat.lt_succ_self _) hgives.calls_le
          · cases h₂
            exact .inl (refl_of Stays _)

/-! ## Taking a message -/

theorem prvCopyIov_stays (m : Msghdr) (u : UserMsghdr) : Keeps Stays (prvCopyIov m u) := by
  unfold prvCopyIov
  split
  · apply ((loadBlock_heapStep _ _).mono HeapStep.stays).bind
    intro v
    cases v with
    | nil => exact Keeps.throw _
    | cons v vs =>
        apply ((prvMoveToStartOfPayload_reads v).mono Reads.stays).bind
        intro v'
        apply ((storeBlock_heapStep _ _).mono HeapStep.stays).bind
        intro _
        apply ((prvCopyPayload_reads _ _ _).mono Reads.stays).bind
        intro r
        exact Keeps.pure _
  · exact Keeps.pure _

theorem prvTakeMessage_stays (a : Addr) (u : UserMsghdr) : Keeps Stays (prvTakeMessage a none u) := by
  apply ((loadMsghdr_heapStep a).mono HeapStep.stays).bind
  intro m
  apply ((prvCopyName_reads m u).mono Reads.stays).bind
  intro u₁
  apply (prvCopyIov_stays m u₁).bind
  rintro ⟨u₂, n⟩
  apply ((prvCopyControl_reads m u₂).mono Reads.stays).bind
  intro u₃
  apply ((vAncillaryMsgFreeAll_heapStep a).mono HeapStep.stays).bind
  intro _
  exact Keeps.pure _

/-- The buffer of a message is released at the end. -/
theorem prvTakeMessage_eq (a : Addr) (p : Option BufId) (u : UserMsghdr) : prvTakeMessage a p u = (do
    let r ← prvTakeMessage a none u
    vReleaseNotNull p
    return r) := by
  simp [prvTakeMessage, vReleaseNotNull]

theorem prvTakeMessage_gives (a : Addr) (b : BufId) (u : UserMsghdr) : GivesAfter 2 b (prvTakeMessage a (some b) u) := by
  rw [prvTakeMessage_eq]
  apply GivesAfter.after (prvTakeMessage_stays a u)
  intro r
  exact GivesAfter.bind (vReleaseNetworkBufferAndDescriptor_gives b) fun _ => Keeps.pure r

/-- A packet is taken from the waiting list of one socket. -/
theorem Takes.waits {k : SockId} {x : BaseSocket} {rest : List BufId} (hx : w.baseSockets k = some x)
    (hb : x.xWaitingPacketsList = b :: rest) :
    Takes 2 b w (w.setBaseSocket k (some { x with xWaitingPacketsList := rest })) := by
  refine ⟨⟨Nat.le_refl _, fun j hj hnone => ?_, fun _ _ h => .inl h⟩, .stack (.waiting k), rfl,
    .of_cons (by simp [placed, Place.buffers, stackBuffers, waiting, hx, hb]) fun p hp => ?_⟩
  · have hjk : j ≠ k := by
      rintro rfl
      rw [hx] at hnone
      cases hnone
    simpa [hjk] using hnone
  · cases p with
    | stack p =>
        cases p with
        | waiting j =>
            have hj : j ≠ k := fun hj => hp (by rw [hj])
            simp [placed, Place.buffers, stackBuffers, waiting, hj]
        | _ => rfl
    | _ => rfl

theorem msghdrOf_stays (p : Ptr) : Keeps Stays (msghdrOf p) := by
  cases p with
  | eth b o => exact Keeps.throw _
  | blk a => exact Keeps.pure a

theorem prvIovBase_stays (a : Addr) : Keeps Stays (prvIovBase a) := (prvIovBase_heapStep a).mono HeapStep.stays

/-- A receive that does not peek releases the packet that it takes. -/
theorem freeRtosTsnRecvmsg_buffers {t : Addr} {m : Option UserMsghdr} {xFlags : Nat} {r : Int × Option UserMsghdr}
    (hpeek : hasFlag xFlags freertosMsgPeek = true → hasFlag xFlags freertosMsgErrqueue = true)
    (h : (freeRtosTsnRecvmsg t m xFlags).run w = .ok r w') :
    Stays w w' ∨ ∃ b w₁, Takes 2 b w w₁ ∧ Gives 2 b w₁ w' := by
  rw [freeRtosTsnRecvmsg] at h
  obtain ⟨s, w₁, hload, h₁⟩ := run_bind_inv h
  obtain ⟨rfl, -⟩ := loadTsnSocket_inv hload
  obtain ⟨x, w₂, hbase, h₂⟩ := run_bind_inv h₁
  obtain ⟨rfl, hx⟩ := loadBaseSocket_inv hbase
  split at h₂
  · cases h₂
    exact .inl (refl_of Stays _)
  · cases m with
    | none =>
        cases h₂
        exact .inl (refl_of Stays _)
    | some u =>
        dsimp only at h₂
        split at h₂
        · refine .inl ?_
          rw [run_bind_ok (EStateM.run_get _)] at h₂
          split at h₂
          · cases h₂
            exact refl_of Stays _
          · rename_i a rest _
            obtain ⟨_, w₃, hset, h₃⟩ := run_bind_inv h₂
            obtain ⟨y, w₄, htake, h₄⟩ := run_bind_inv h₃
            cases hset
            cases h₄
            have hset : Stays w₂ (w₂.setErrQueue s.xErrQueue rest) := .of_eq rfl (Nat.le_refl _)
            exact trans_of Stays hset ((prvTakeMessage_stays _ _).ok htake)
        · rename_i herr
          have hnopeek : hasFlag xFlags freertosMsgPeek = false := by
            by_contra hp
            exact herr (hpeek (by simpa using hp))
          split at h₂
          · cases h₂
            exact .inl (refl_of Stays _)
          · rename_i b rest hb
            simp only [hnopeek, Bool.not_false, if_true] at h₂
            obtain ⟨_, w₃, hstore, h₃⟩ := run_bind_inv h₂
            cases hstore
            refine .inr ⟨b, _, .waits hx hb, ?_⟩
            obtain ⟨d, w₄, hbuf, h₄⟩ := run_bind_inv h₃
            obtain ⟨a, w₅, hmsg, h₅⟩ := run_bind_inv h₄
            obtain ⟨p, w₆, hiov, h₆⟩ := run_bind_inv h₅
            obtain ⟨_, w₇, hmod, h₇⟩ := run_bind_inv h₆
            obtain ⟨y, w₈, htake, h₈⟩ := run_bind_inv h₇
            cases h₈
            have hw₅ := trans_of Stays ((loadBuf_stays b).ok hbuf) ((msghdrOf_stays _).ok hmsg)
            have hw₇ := trans_of Stays ((prvIovBase_stays _).ok hiov) ((modifyBuf_stays b _).ok hmod)
            exact (trans_of Stays hw₅ hw₇).gives (prvTakeMessage_gives _ b u htake)

/-! ## Sockets -/

/-- A base socket is new or is changed, but its waiting list is as it was. -/
theorem Stays.setBaseSocket {k : SockId} {x : BaseSocket} (hl : x.xWaitingPacketsList = waiting w k)
    (hk : w.baseSockets k = none → k < w.calls) : Stays w (w.setBaseSocket k (some x)) := by
  have hwait : ∀ j, waiting (w.setBaseSocket k (some x)) j = waiting w j := by
    intro j
    by_cases hj : j = k
    · subst hj
      rw [← hl]
      simp [waiting]
    · simp [waiting, hj]
  refine ⟨⟨Nat.le_refl _, fun j hj hnone => ?_, fun _ _ h => .inl h⟩, placed_congr ?_ ?_ ?_ ?_ hwait⟩ <;> try rfl
  have hjk : j ≠ k := by
    rintro rfl
    exact Nat.not_lt.mpr hj (hk hnone)
  simpa [hjk] using hnone

theorem Stays.updateBaseSocket {k : SockId} {x x' : BaseSocket} (hx : w.baseSockets k = some x)
    (hl : x'.xWaitingPacketsList = x.xWaitingPacketsList) : Stays w (w.setBaseSocket k (some x')) :=
  .setBaseSocket (by simp [waiting, hx, hl]) (by simp [hx])

theorem freeRtosSetsockopt_stays (k : SockId) (lOptionName ulOptionValue : Int) :
    Keeps Stays (freeRtosSetsockopt k lOptionName ulOptionValue) := by
  intro w
  cases hx : w.baseSockets k with
  | none =>
      have hload : (loadBaseSocket k).run w = .error .heap w := by simp [loadBaseSocket, hx]
      rw [freeRtosSetsockopt, run_bind_error hload]
      exact refl_of Stays w
  | some x =>
      rw [freeRtosSetsockopt, run_bind_ok (run_loadBaseSocket hx)]
      split
      · exact .updateBaseSocket hx rfl
      · split
        · exact .updateBaseSocket hx rfl
        · exact refl_of Stays w

theorem freeRtosTsnSetsockopt_stays (t : Addr) (lOptionName ulOptionValue : Int) :
    Keeps Stays (freeRtosTsnSetsockopt cfg t lOptionName ulOptionValue) := by
  apply ((loadTsnSocket_heapStep t).mono HeapStep.stays).bind
  intro s
  have hstore : ∀ x, Keeps Stays (storeBlock t (.tsnSocket x) >>= fun _ => (pure 0 : M Int)) := fun x =>
    ((storeBlock_heapStep _ _).mono HeapStep.stays).bind fun _ => Keeps.pure 0
  have hreset : Keeps Stays (xQueueReset s.xErrQueue) := Keeps.modify fun _ => .of_eq rfl (Nat.le_refl _)
  repeat' apply Keeps.ite
  all_goals first
    | exact hstore _
    | exact hreset.bind fun _ => hstore _
    | exact Keeps.pure _
    | exact freeRtosSetsockopt_stays _ _ _

theorem vTsnSocketInsert_stays (t : Addr) : Keeps Stays (vTsnSocketInsert t) := by
  apply ((loadTsnSocket_heapStep t).mono HeapStep.stays).bind
  intro s
  apply ((loadBaseSocket_heapStep _).mono HeapStep.stays).bind
  intro x
  exact Keeps.modify fun _ => .of_eq rfl (Nat.le_refl _)

theorem freeRtosTsnBind_stays {t : Addr} {sinPort : UInt16} {r : Bool}
    (h : (freeRtosTsnBind t sinPort).run w = .ok r w') : Stays w w' := by
  obtain ⟨s, w₁, hload, h₁⟩ := run_bind_inv h
  obtain ⟨rfl, hs⟩ := loadTsnSocket_inv hload
  obtain ⟨bOk, w₂, hbind, h₂⟩ := run_bind_inv h₁
  obtain ⟨x, hx, hbound⟩ := freeRtosBind_inv hbind
  have htick : Stays w₁ w₁.tick := .of_eq rfl (Nat.le_succ _)
  cases bOk with
  | false =>
      cases h₂
      cases hbound
      exact htick
  | true =>
      obtain ⟨-, usPort, rfl⟩ := hbound
      obtain ⟨_, w₃, hinsert, h₃⟩ := run_bind_inv h₂
      cases h₃
      have hbase : Stays w₁.tick (w₁.tick.setBaseSocket s.xBaseSocket
          (some { x with bBound := true, usLocalPort := swap16 usPort })) := .updateBaseSocket hx rfl
      have hlist : Stays _ (boundBase w₁ s.xBaseSocket x usPort) := .of_eq rfl (Nat.le_refl _)
      have hbound := trans_of Stays (trans_of Stays htick hbase) hlist
      exact trans_of Stays hbound ((vTsnSocketInsert_stays t).ok hinsert)

/-- While no base socket has a name that is still free. -/
def StaysFresh (w w' : World) : Prop := (∀ k, w.calls ≤ k → w.baseSockets k = none) → Stays w w'

instance : IsPreorder World StaysFresh where
  refl w _ := refl_of Stays w
  trans w w₁ w' h h' hfresh := by
    have hstays := h hfresh
    exact trans_of Stays hstays (h' fun k hk => hstays.sockets k hk (hfresh k (hstays.calls_le.trans hk)))

theorem Stays.staysFresh (w w' : World) (h : Stays w w') : StaysFresh w w' := fun _ => h

/-- The waiting list of a new socket is empty. -/
theorem freeRtosSocket_staysFresh (bIsIPv6 : Bool) : Keeps StaysFresh (freeRtosSocket bIsIPv6) := by
  intro w hfresh
  have htick : Stays w w.tick := .of_eq rfl (Nat.le_succ _)
  cases hs : w.env.freeRtosSocket w.calls with
  | false =>
      rw [run_freeRtosSocket_null bIsIPv6 hs]
      exact htick
  | true =>
      rw [run_freeRtosSocket_ok bIsIPv6 hs, lastState_ok]
      have hnone := hfresh w.calls (Nat.le_refl _)
      have hset : Stays w.tick (w.tick.setBaseSocket w.calls
          (some ⟨false, 0, [], bIsIPv6, portMaxDelay, portMaxDelay, none⟩)) :=
        .setBaseSocket (by simp [waiting, hnone]) fun _ => Nat.lt_succ_self _
      exact trans_of Stays htick hset

theorem xQueueCreate_stays : Keeps Stays xQueueCreate := by
  apply nextCall_stays.bind
  intro n
  apply Keeps.get
  intro w
  split
  · exact .of_eq rfl (Nat.le_refl _)
  · exact refl_of Stays w

theorem freeRtosTsnSocket_staysFresh (cfg : Config) (bIsIPv6 : Bool) (xType : Nat) :
    Keeps StaysFresh (freeRtosTsnSocket cfg bIsIPv6 xType) := by
  have hheap {α : Type} {x : M α} (hx : Keeps HeapStep x) : Keeps StaysFresh x :=
    (hx.mono HeapStep.stays).mono Stays.staysFresh
  unfold freeRtosTsnSocket
  split
  · exact Keeps.pure _
  apply Keeps.get
  intro w
  refine ((hheap (pvPortMalloc_heapStep _)).bind fun p => ?_) w
  cases p with
  | none => exact Keeps.pure _
  | some pxSocket =>
      apply (freeRtosSocket_staysFresh bIsIPv6).bind
      intro k
      cases k with
      | none => exact (hheap (vPortFree_heapStep _)).bind fun _ => Keeps.pure _
      | some k =>
          apply (hheap (storeBlock_heapStep _ _)).bind
          intro _
          apply (xQueueCreate_stays.mono Stays.staysFresh).bind
          intro q
          cases q with
          | none => exact (hheap (vPortFree_heapStep _)).bind fun _ => Keeps.pure _
          | some q => exact (hheap (storeBlock_heapStep _ _)).bind fun _ => Keeps.pure _

end FreeRtosTsn.Node
