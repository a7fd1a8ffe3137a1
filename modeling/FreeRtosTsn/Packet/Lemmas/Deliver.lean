import FreeRtosTsn.Packet.Lemmas.Receive

/-!
# Delivery

What `prvDeliverFrame` does with an item, by the socket that is bound to its port at that time.
-/

namespace FreeRtosTsn.Packet

open Lib Kernel

variable {cfg : Config} {w w₁ : World} {b : BufId} {xItem : NetworkQueueItem}

/-! ## Looking at the frame -/

theorem run_prvInspectFrame (hp : (w.bufs b).pucEthernetBuffer = .eth b 0) :
    ∃ w', (prvInspectFrame b).run w = .ok (inspected w b) w' ∧ FrameStep b w w' ∧ w'.mem = w.mem ∧
      ∃ x, w'.bufs b = { w.bufs b with xIPAddress := x } := by
  have h₁ := (refl_of (FrameStep b) w).accessed b ethFrameType 2
  by_cases h4 : (w.mem b).load16 ethFrameType = ipIPv4FrameType
  · by_cases hlen : (w.bufs b).xDataLength < sizeOfIPPacket
    · refine ⟨_, ?_, h₁, rfl, (w.bufs b).xIPAddress, rfl⟩
      simp -implicitDefEqProofs [prvInspectFrame, inspected, hp, h4, hlen]
    · have h₂ := h₁.accessed b (ipSizeOfEthHeader + 12) 4
      have h₃ := h₂.setBuf (d := { w.bufs b with
        xIPAddress := .ipv4 ((w.mem b).load32 (ipSizeOfEthHeader + 12)) }) rfl rfl rfl
      refine ⟨_, ?_, h₃.accessed b (ipSizeOfEthHeader + 9) 1, rfl, _, Function.update_self _ _ _⟩
      simp -implicitDefEqProofs [prvInspectFrame, inspected, protocolOf, hp, h4, hlen]
  · refine ⟨_, ?_, h₁, rfl, (w.bufs b).xIPAddress, rfl⟩
    simp -implicitDefEqProofs [prvInspectFrame, inspected, hp, h4]

theorem run_prvDeliverFrame (cfg : Config) (hb : xItem.pxBuf = some b) (hd : Deliverable w b) (xUsingIPTask : Bool) :
    ∃ w₁, FrameStep b w w₁ ∧ w₁.mem = w.mem ∧ (∃ x, w₁.bufs b = { w.bufs b with xIPAddress := x }) ∧
      (prvDeliverFrame cfg xItem xUsingIPTask).run w =
        match inspected w b with
        | none => .ok () (w₁.release b)
        | some ucProto => (prvDispatchFrame cfg xItem b ucProto xUsingIPTask).run w₁ := by
  obtain ⟨w₁, hrun, hf, hm, x, hx⟩ := run_prvInspectFrame hd.pucEthernetBuffer
  refine ⟨w₁, hf, hm, ⟨x, hx⟩, ?_⟩
  have hgo : ¬((w.bufs b).pxInterface.isNone || (w.bufs b).pxEndPoint.isNone ||
      decide ((w.bufs b).xDataLength < ipSizeOfEthHeader)) = true := by
    simp [hd.pxInterface, hd.pxEndPoint, hd.xDataLength]
  simp only [prvDeliverFrame, hb]
  rw [run_bind_ok (run_loadBuf _ _), if_neg hgo, run_bind_ok hrun]
  cases inspected w b with
  | none => rfl
  | some ucProto => rfl

/-! ## To a TSN socket -/

section Tsn

variable {t : Addr} {s : TSNSocket} {k : SockId} {x : BaseSocket} {ucProto : UInt8} {xUsingIPTask : Bool}

theorem prvDispatchFrame_tsn (hl : prvLookup (w.bufs b).usBoundPort w.xTSNBoundUDPSocketList = some t)
    (hs : w.heap t = some (.tsnSocket s)) :
    (prvDispatchFrame cfg xItem b ucProto xUsingIPTask).run w =
      (prvReceiveUDPPacketTSN cfg xItem t s.xBaseSocket).run w := by
  rw [prvDispatchFrame, run_bind_ok (run_loadBuf _ _), run_bind_ok (run_vSocketFromPort_tsn hl hs)]
  rfl

theorem prvReceiveUDPPacketTSN_null (h : xItem.pxMsgh = none) :
    (prvReceiveUDPPacketTSN cfg xItem t k).run w = .error .assert w := by
  rw [prvReceiveUDPPacketTSN, h]
  rfl

def waitingAfter (w : World) (b : BufId) (a : Addr) (k : SockId) (x : BaseSocket) : World :=
  (w.setBuf b { w.bufs b with pucEthernetBuffer := .blk a }).setBaseSocket k
    (some { x with xWaitingPacketsList := x.xWaitingPacketsList ++ [b] })

theorem run_loadBaseSocket (h : w.baseSockets k = some x) : (loadBaseSocket k).run w = .ok x w := by
  simp [loadBaseSocket, h]

theorem run_prvIovBase {a i : Addr} {m : Msghdr} {n : Nat} (h : Carries w a b m i n) :
    (prvIovBase a).run w = .ok (.eth b 0) w := by
  rw [prvIovBase, run_bind_ok (run_loadMsghdr h.msghdr), h.msgIov, run_bind_ok (run_deref_some _ _),
    run_bind_ok (run_loadIovec h.iovec)]
  rfl

/-- Both assertions hold for an item whose message refers to its frame. -/
theorem prvReceiveUDPPacketTSN_carries {a i : Addr} {m : Msghdr} {n : Nat} (hb : xItem.pxBuf = some b)
    (ha : xItem.pxMsgh = some a) (h : Carries w a b m i n) (hp : (w.bufs b).pucEthernetBuffer = .eth b 0) :
    (prvReceiveUDPPacketTSN cfg xItem t k).run w = (prvWaitForUser b a k).run w := by
  have hflag : hasFlag m.msgFlags freertosMsgErrqueue = false := by
    rw [h.msgFlags]
    decide
  have hassert : ∀ w : World, (configAssert true).run w = .ok () w := fun _ => rfl
  rw [prvReceiveUDPPacketTSN, ha]
  simp only [Option.isSome_some]
  rw [run_bind_ok (hassert w), run_bind_ok (run_deref_some _ _), run_bind_ok (run_loadMsghdr h.msghdr), hflag]
  simp only [Bool.false_eq_true, if_false]
  rw [run_bind_ok (run_prvIovBase h), hb, run_bind_ok (run_deref_some _ _), run_bind_ok (run_loadBuf _ _), hp]
  simp only [beq_self_eq_true]
  rw [run_bind_ok (hassert w)]

theorem run_prvWaitForUser {a : Addr} (hx : w.baseSockets k = some x) :
    (prvWaitForUser b a k).run w = .ok () (waitingAfter w b a k x) := by
  have hx' : (w.setBuf b { w.bufs b with pucEthernetBuffer := .blk a }).baseSockets k = some x := hx
  rw [prvWaitForUser, run_bind_ok (run_modifyBuf _ _ _), run_bind_ok (run_loadBaseSocket hx')]
  rfl

theorem prvWaitForUser_inv {a : Addr} {w' : World} (h : (prvWaitForUser b a k).run w = .ok () w') :
    ∃ x, w.baseSockets k = some x ∧ w' = waitingAfter w b a k x := by
  cases hx : w.baseSockets k with
  | some x =>
      rw [run_prvWaitForUser hx] at h
      cases h
      exact ⟨x, rfl, rfl⟩
  | none =>
      have hload : (loadBaseSocket k).run (w.setBuf b { w.bufs b with pucEthernetBuffer := .blk a }) =
          .error .heap (w.setBuf b { w.bufs b with pucEthernetBuffer := .blk a }) := by
        simp -implicitDefEqProofs [loadBaseSocket, hx]
      rw [prvWaitForUser, run_bind_ok (run_modifyBuf _ _ _), run_bind_error hload] at h
      exact nomatch h

/-- A message without a vector is dereferenced. -/
theorem prvReceiveUDPPacketTSN_noVector {a : Addr} {m : Msghdr} (ha : xItem.pxMsgh = some a)
    (h : w.heap a = some (.msghdr m)) (hf : m.msgFlags = 0) (hi : m.msgIov = none) :
    (prvReceiveUDPPacketTSN cfg xItem t k).run w = .error .null w := by
  have hflag : hasFlag m.msgFlags freertosMsgErrqueue = false := by
    rw [hf]
    decide
  have hassert : ∀ w : World, (configAssert true).run w = .ok () w := fun _ => rfl
  rw [prvReceiveUDPPacketTSN, ha]
  simp only [Option.isSome_some]
  rw [run_bind_ok (hassert w), run_bind_ok (run_deref_some _ _), run_bind_ok (run_loadMsghdr h), hflag]
  simp only [Bool.false_eq_true, if_false]
  have hbase : (prvIovBase a).run w = .error .null w := by
    rw [prvIovBase, run_bind_ok (run_loadMsghdr h), hi, run_bind_error (run_deref_none _)]
  rw [run_bind_error hbase]

end Tsn

/-! ## To the IP task and to +TCP -/

section Plain

variable {ucProto : UInt8} {xUsingIPTask : Bool}

theorem prvDispatchFrame_plain {k : SockId} (hl : prvLookup (w.bufs b).usBoundPort w.xTSNBoundUDPSocketList = none)
    (hk : prvLookup (w.bufs b).usBoundPort w.xBoundUDPSocketsList = some k) :
    (prvDispatchFrame cfg xItem b ucProto xUsingIPTask).run w =
      (prvDeliverToPlainSocket xItem b ucProto xUsingIPTask).run w := by
  rw [prvDispatchFrame, run_bind_ok (run_loadBuf _ _), run_bind_ok (run_vSocketFromPort_plain hl), hk]

theorem prvDispatchFrame_none (hl : prvLookup (w.bufs b).usBoundPort w.xTSNBoundUDPSocketList = none)
    (hk : prvLookup (w.bufs b).usBoundPort w.xBoundUDPSocketsList = none) :
    (prvDispatchFrame cfg xItem b ucProto xUsingIPTask).run w = (prvToIPTask b).run w := by
  rw [prvDispatchFrame, run_bind_ok (run_loadBuf _ _), run_bind_ok (run_vSocketFromPort_plain hl), hk]

/-- The IP task takes the frame, or it is released. -/
theorem run_prvToIPTask :
    (prvToIPTask b).run w =
      .ok () (if w.env.xSendEventStructToIPTask w.calls then w.tick.toIPTask b else w.tick.release b) := by
  cases h : w.env.xSendEventStructToIPTask w.calls <;>
    simp -implicitDefEqProofs [prvToIPTask, xSendEventStructToIPTask, nextCall, h]

/-- The message is not needed, and neither is the port. -/
theorem run_prvDeliverToPlainSocket (b : BufId) (xUsingIPTask : Bool) (h : MsgHeap w.heap)
    (ha : ∀ a, xItem.pxMsgh = some a → ∃ m, w.heap a = some (.msghdr m)) (hproto : ucProto ≠ ipProtocolUdp) :
    ∃ w₁, HeapStep w w₁ ∧ (prvDeliverToPlainSocket xItem b ucProto xUsingIPTask).run w = (prvToIPTask b).run w₁ := by
  have hgo : (xUsingIPTask || ucProto != ipProtocolUdp) = true := by simp [hproto]
  cases hmsgh : xItem.pxMsgh with
  | none =>
      refine ⟨w, refl_of HeapStep w, ?_⟩
      rw [prvDeliverToPlainSocket, hmsgh, vFreeAllNotNull, run_bind_ok (EStateM.run_pure _ _), if_pos hgo]
  | some a =>
      obtain ⟨m, hm⟩ := ha a hmsgh
      refine ⟨freeAll w a m, freeAll_heapStep w a m, ?_⟩
      rw [prvDeliverToPlainSocket, hmsgh, vFreeAllNotNull, run_bind_ok (run_vAncillaryMsgFreeAll h hm), if_pos hgo]

end Plain

/-! ## Frames that a TSN socket gets -/

theorem HeapStep.ipTaskEvents (w w' : World) (h : HeapStep w w') : Same World.ipTaskEvents w w' := by
  unfold Same
  rw [h.eq]

theorem xSocketErrorQueueInsert_ipTaskEvents (t a : Addr) :
    Keeps (Same World.ipTaskEvents) (xSocketErrorQueueInsert cfg t a) :=
  xSocketErrorQueueInsert_keeps HeapStep.ipTaskEvents (fun _ _ _ => rfl) cfg t a

theorem prvIovBase_heapStep (a : Addr) : Keeps HeapStep (prvIovBase a) := by
  apply (loadMsghdr_heapStep a).bind
  intro m
  apply (deref_heapStep _).bind
  intro i
  apply (loadBlock_heapStep _ i).bind
  intro v
  cases v with
  | nil => exact Keeps.throw _
  | cons v vs => exact Keeps.pure _

theorem prvWaitForUser_ipTaskEvents (b : BufId) (a : Addr) (k : SockId) :
    Keeps (Same World.ipTaskEvents) (prvWaitForUser b a k) := by
  have hbuf : ∀ f, Keeps (Same World.ipTaskEvents) (modifyBuf b f) := fun _ => Keeps.modify fun _ => rfl
  have hstore : ∀ x, Keeps (Same World.ipTaskEvents) (storeBaseSocket k x) := fun _ => Keeps.modify fun _ => rfl
  apply (hbuf _).bind
  intro _
  exact ((loadBaseSocket_heapStep k).mono HeapStep.ipTaskEvents).bind fun x => hstore _

theorem prvReceiveUDPPacketTSN_ipTaskEvents (t : Addr) (k : SockId) :
    Keeps (Same World.ipTaskEvents) (prvReceiveUDPPacketTSN cfg xItem t k) := by
  have hassert : ∀ p, Keeps (Same World.ipTaskEvents) (configAssert p) := by
    intro p
    cases p with
    | true => exact Keeps.pure ()
    | false => exact Keeps.throw _
  have hrelease : ∀ p, Keeps (Same World.ipTaskEvents) (vReleaseNotNull p) := by
    intro p
    cases p with
    | none => exact Keeps.pure ()
    | some b => exact Keeps.modify fun _ => rfl
  apply (hassert _).bind
  intro _
  apply ((deref_heapStep _).mono HeapStep.ipTaskEvents).bind
  intro a
  apply ((loadMsghdr_heapStep a).mono HeapStep.ipTaskEvents).bind
  intro m
  apply Keeps.ite
  · apply Keeps.bind (hrelease xItem.pxBuf)
    intro _
    exact (xSocketErrorQueueInsert_ipTaskEvents t a).bind fun _ => Keeps.pure ()
  · apply (prvIovBase_heapStep a).mono HeapStep.ipTaskEvents |>.bind
    intro p
    apply ((deref_heapStep _).mono HeapStep.ipTaskEvents).bind
    intro b
    apply Keeps.get
    intro w
    exact ((hassert _).bind fun _ => prvWaitForUser_ipTaskEvents b a k) w

theorem prvDispatchFrame_ipTaskEvents (cfg : Config) (xItem : NetworkQueueItem) (ucProto : UInt8) (xUsingIPTask : Bool)
    {t : Addr} (hl : prvLookup (w.bufs b).usBoundPort w.xTSNBoundUDPSocketList = some t) :
    (lastState ((prvDispatchFrame cfg xItem b ucProto xUsingIPTask).run w)).ipTaskEvents = w.ipTaskEvents := by
  have hrun : (prvDispatchFrame cfg xItem b ucProto xUsingIPTask).run w =
      (do let s ← loadTsnSocket t
          prvReceiveUDPPacketTSN cfg xItem t s.xBaseSocket : M Unit).run w := by
    rw [prvDispatchFrame, run_bind_ok (run_loadBuf _ _), vSocketFromPort, EStateM.run_bind, EStateM.run_bind]
    simp only [EStateM.run_get, hl, EStateM.run_bind]
    cases (loadTsnSocket t).run w <;> rfl
  rw [hrun]
  exact ((loadTsnSocket_heapStep t).mono HeapStep.ipTaskEvents).bind
    (fun s => prvReceiveUDPPacketTSN_ipTaskEvents t s.xBaseSocket) w

end FreeRtosTsn.Packet
