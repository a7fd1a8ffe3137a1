import FreeRtosTsn.Packet.Lemmas.Flight
import FreeRtosTsn.Packet.Lemmas.Sockets
import FreeRtosTsn.Packet.Lemmas.Take

/-!
# Deliveries that ended

What is known of a delivery from its end: the ways that it took, and where it left the frame.
-/

namespace FreeRtosTsn.Packet

open Lib Kernel

variable {cfg : Config} {w w' : World} {b : BufId} {a : Addr} {xItem : NetworkQueueItem}

/-! ## A TSN socket -/

theorem prvIovBase_inv {p : Ptr} (h : (prvIovBase a).run w = .ok p w') : w' = w := by
  obtain ⟨m, w₁, h₁, hrest⟩ := run_bind_inv h
  obtain ⟨hw₁, -⟩ := loadMsghdr_inv h₁
  cases hi : m.msgIov with
  | none =>
      rw [hi] at hrest
      cases hrest
  | some i =>
      rw [hi, run_bind_ok (run_deref_some _ _)] at hrest
      obtain ⟨v, w₂, h₂, hbase⟩ := run_bind_inv hrest
      obtain ⟨hw₂, -⟩ := loadIovec_inv h₂
      cases v <;> cases hbase
      exact hw₂.trans hw₁

/-- A delivery to a TSN socket that ends took one of two ways. -/
theorem prvReceiveUDPPacketTSN_inv {t : Addr} {k : SockId} (hb : xItem.pxBuf = some b)
    (hrun : (prvReceiveUDPPacketTSN cfg xItem t k).run w = .ok () w') :
    ∃ a m, xItem.pxMsgh = some a ∧ w.heap a = some (.msghdr m) ∧
      if hasFlag m.msgFlags freertosMsgErrqueue then
        ∃ ok, (xSocketErrorQueueInsert cfg t a).run (w.release b) = .ok ok w'
      else ∃ x, w.baseSockets k = some x ∧ w' = waitingAfter w b a k x := by
  have hassert : ∀ {p u} {w₁ w₂ : World}, (configAssert p).run w₁ = .ok u w₂ → w₂ = w₁ := by
    intro p u w₁ w₂ h
    cases p <;> cases h
    rfl
  cases ha : xItem.pxMsgh with
  | none =>
      rw [prvReceiveUDPPacketTSN_null ha] at hrun
      cases hrun
  | some a =>
      rw [prvReceiveUDPPacketTSN, ha] at hrun
      obtain ⟨u, w₁, h₁, hload⟩ := run_bind_inv hrun
      rw [hassert h₁, run_bind_ok (run_deref_some _ _)] at hload
      obtain ⟨m, w₂, h₂, hgo⟩ := run_bind_inv hload
      obtain ⟨hw₂, hm⟩ := loadMsghdr_inv h₂
      rw [hw₂] at hgo
      refine ⟨a, m, rfl, hm, ?_⟩
      cases hflag : hasFlag m.msgFlags freertosMsgErrqueue with
      | true =>
          rw [hflag, if_pos rfl, hb, vReleaseNotNull, run_bind_ok (run_vReleaseNetworkBufferAndDescriptor w b)] at hgo
          obtain ⟨ok, w₃, h₃, hend⟩ := run_bind_inv hgo
          cases hend
          exact ⟨ok, h₃⟩
      | false =>
          rw [hflag, if_neg Bool.false_ne_true] at hgo
          obtain ⟨iovBase, w₃, h₃, hbuf⟩ := run_bind_inv hgo
          rw [prvIovBase_inv h₃, hb, run_bind_ok (run_deref_some _ _), run_bind_ok (run_loadBuf _ _)] at hbuf
          obtain ⟨u, w₄, h₄, hwait⟩ := run_bind_inv hbuf
          rw [hassert h₄] at hwait
          exact prvWaitForUser_inv hwait

/-- The socket that the lookup found is live. -/
theorem prvDispatchFrame_tsn_inv {t : Addr} {ucProto : UInt8} {xUsingIPTask : Bool}
    (hl : prvLookup (w.bufs b).usBoundPort w.xTSNBoundUDPSocketList = some t)
    (hrun : (prvDispatchFrame cfg xItem b ucProto xUsingIPTask).run w = .ok () w') :
    ∃ s, w.heap t = some (.tsnSocket s) ∧ (prvReceiveUDPPacketTSN cfg xItem t s.xBaseSocket).run w = .ok () w' := by
  have hfind := hrun
  rw [prvDispatchFrame, run_bind_ok (run_loadBuf _ _)] at hfind
  obtain ⟨r, w₁, h₁, -⟩ := run_bind_inv hfind
  rw [vSocketFromPort, run_bind_ok (EStateM.run_get w), hl] at h₁
  obtain ⟨s, w₂, h₂, -⟩ := run_bind_inv h₁
  obtain ⟨-, hs⟩ := loadTsnSocket_inv h₂
  rw [prvDispatchFrame_tsn hl hs] at hrun
  exact ⟨s, hs, hrun⟩

/-! ## Other ways -/

theorem prvToIPTask_bufs (b : BufId) : Keeps (Same World.bufs) (prvToIPTask b) := by
  intro w
  rw [run_prvToIPTask]
  dsimp only [lastState_ok]
  split <;> rfl

theorem vAncillaryMsgFreeAll_heapStep (a : Addr) : Keeps HeapStep (vAncillaryMsgFreeAll a) := by
  have hfree : ∀ p, Keeps HeapStep (vFreeNotNull p) := by
    intro p
    cases p with
    | none => exact Keeps.pure ()
    | some y => exact vPortFree_heapStep y
  exact (loadMsghdr_heapStep a).bind fun m => (hfree m.msgIov).bind fun _ => (hfree m.msgName).bind fun _ =>
    (hfree m.msgControl).bind fun _ => vPortFree_heapStep a

theorem prvDeliverToPlainSocket_bufs (xItem : NetworkQueueItem) (b : BufId) (ucProto : UInt8) (xUsingIPTask : Bool) :
    Keeps (Same World.bufs) (prvDeliverToPlainSocket xItem b ucProto xUsingIPTask) := by
  have hfree : Keeps (Same World.bufs) (vFreeAllNotNull xItem.pxMsgh) := by
    cases xItem.pxMsgh with
    | none => exact Keeps.pure ()
    | some a => exact (vAncillaryMsgFreeAll_heapStep a).mono fun _ _ h => h.bufs
  have hudp : Keeps (Same World.bufs) (xProcessReceivedUDPPacket b) := by
    refine Keeps.bind (fun _ => rfl) fun _ => Keeps.get fun w => ?_
    split <;> rfl
  refine hfree.bind fun _ => Keeps.ite (prvToIPTask_bufs b) (hudp.bind fun ok => ?_)
  cases ok with
  | true => exact Keeps.pure ()
  | false => exact Keeps.modify fun _ => rfl

/-- A frame that waits for a user after its delivery waits with its message. Nothing else happened to either. -/
theorem prvDeliverFrame_waits {m : Msghdr} {a' : Addr} {xUsingIPTask : Bool} (hb : xItem.pxBuf = some b)
    (ha : xItem.pxMsgh = some a) (hp : (w.bufs b).pucEthernetBuffer = .eth b 0) (hm : w.heap a = some (.msghdr m))
    (hflags : m.msgFlags = 0) (hrun : (prvDeliverFrame cfg xItem xUsingIPTask).run w = .ok () w')
    (hwaits : (w'.bufs b).pucEthernetBuffer = .blk a') : a' = a ∧ w'.mem = w.mem ∧ w'.heap = w.heap ∧
      (HeapOk w → HeapOk w') := by
  have hstill : (w'.bufs b).pucEthernetBuffer ≠ .eth b 0 := by
    rw [hwaits]
    exact fun h => nomatch h
  by_cases hd : Deliverable w b
  · obtain ⟨w₁, hfs, hmem, -, heq⟩ := run_prvDeliverFrame cfg hb hd xUsingIPTask
    have hp₁ : (w₁.bufs b).pucEthernetBuffer = .eth b 0 := hfs.pucEthernetBuffer.trans hp
    have hheap : w₁.heap = w.heap := by rw [hfs.eq]
    rw [heq] at hrun
    cases hi : inspected w b with
    | none =>
        rw [hi] at hrun
        cases hrun
        exact absurd hp₁ hstill
    | some ucProto =>
        rw [hi] at hrun
        dsimp only at hrun
        cases hl : prvLookup (w₁.bufs b).usBoundPort w₁.xTSNBoundUDPSocketList with
        | some t =>
            obtain ⟨s, hs, hgo⟩ := prvDispatchFrame_tsn_inv hl hrun
            obtain ⟨a₁, m₁, ha₁, hm₁, hway⟩ := prvReceiveUDPPacketTSN_inv hb hgo
            cases ha.symm.trans ha₁
            rw [hheap, hm] at hm₁
            cases hm₁
            have hflag : ¬hasFlag m.msgFlags freertosMsgErrqueue = true := by
              rw [hflags]
              decide
            rw [if_neg hflag] at hway
            obtain ⟨x, -, rfl⟩ := hway
            have hblk : ((waitingAfter w₁ b a s.xBaseSocket x).bufs b).pucEthernetBuffer = .blk a := by
              simp [waitingAfter]
            rw [hblk] at hwaits
            cases hwaits
            refine ⟨rfl, hmem, hheap, fun hok => ?_⟩
            obtain ⟨hmsgs, hfresh, hfreed, honce⟩ := hfs.heapOk hok
            exact ⟨hmsgs, hfresh, hfreed, honce⟩
        | none =>
            have hbufs : w'.bufs = w₁.bufs := by
              cases hk : prvLookup (w₁.bufs b).usBoundPort w₁.xBoundUDPSocketsList with
              | some k =>
                  rw [prvDispatchFrame_plain hl hk] at hrun
                  exact (prvDeliverToPlainSocket_bufs xItem b ucProto xUsingIPTask).ok hrun
              | none =>
                  rw [prvDispatchFrame_none hl hk] at hrun
                  exact (prvToIPTask_bufs b).ok hrun
            rw [hbufs] at hstill
            exact absurd hp₁ hstill
  · rw [prvDeliverFrame_ignored hb hp hd] at hrun
    cases hrun
    exact absurd hp hstill

end FreeRtosTsn.Packet
