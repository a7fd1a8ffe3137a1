import FreeRtosTsn.Packet.Lemmas.Recvmsg
import FreeRtosTsn.Packet.Lemmas.Flight
import FreeRtosTsn.Packet.Lemmas.Send

/-!
# A datagram from one node to another

What the receiver makes of a frame that `FreeRTOS_TSN_sendto` prepared, up to the buffer of the user.
-/

namespace FreeRtosTsn.Packet

open Lib Kernel Scheduler

variable {m m' : Mem} {n : Nat} {p : List UInt8} {usPort : UInt16}

/-! ## The frame, as the receiver reads it -/

namespace DatagramFrame

theorem congr (h : DatagramFrame m n p usPort) (hm : m'.read 0 n = m.read 0 n) : DatagramFrame m' n p usPort := by
  have hlen := h.uxLength
  have hbyte : ∀ i < n, m' i = m i := fun i hi => by simpa using Mem.read_inj hm i hi
  refine ⟨h.toUdpHeaders.congr fun i hi => hbyte i (by omega), ?_, hlen⟩
  have hpayload := h.payload
  rw [← Mem.read_congr fun i hi => hbyte _ (by omega)] at hpayload
  exact hpayload

variable (h : DatagramFrame m n p usPort)
include h

theorem untagged : uxTagsOfType (swap16 (m.load16 ethFrameType)) = 0 := by
  rw [h.usFrameType]
  decide

theorem protocolOf : protocolOf m = ipProtocolUdp := by
  rw [Packet.protocolOf, if_pos h.usFrameType, h.ucProtocol]

theorem uxPrefixOf : uxPrefixOf m = sizeOfIPPacket := by
  rw [Packet.uxPrefixOf, if_pos h.usFrameType]
  rfl

theorem portsOf : (portsOf m).1 = usPort := by
  have hports : hasPorts m = true := by simp [hasPorts, h.protocolOf]
  rw [Packet.portsOf, if_pos hports, h.uxPrefixOf]
  exact h.usDestinationPort

/-- The length of the payload is that of the UDP header, which counts the header. -/
theorem payloadOf : payloadOf m n = (sizeOfIPPacket + ipSizeOfUdpHeader, (p.length + 8) % 65536) := by
  rw [Packet.payloadOf, if_pos h.protocolOf, h.uxPrefixOf, h.usLength, swap16_swap16, UInt16.toNat_ofNat']

theorem take_payload {k : Nat} (hk : k ≤ p.length) : m.read (sizeOfIPPacket + ipSizeOfUdpHeader) k = p.take k := by
  rw [← Nat.min_eq_left hk, ← Mem.take_read, h.payload, Nat.min_eq_left hk]

end DatagramFrame

/-- The frame that was queued is the one that was prepared. -/
theorem SentAs.datagramFrame {cfg : Config} {t : Addr} {dest : Destination} {b : BufId} {w w' : World}
    (h : SentAs cfg t p dest b w w') : DatagramFrame (w'.mem b) (w'.bufs b).xDataLength p dest.sinPort := by
  obtain ⟨s, hs, htag⟩ := h.socket
  obtain ⟨w₁, q, hprep, hframe, hpush⟩ := freeRtosTsnSendto_accepted hs htag h.accepted
  obtain ⟨q', hq'⟩ := h.queued
  have hqueues : w'.queues = Function.update w.queues q (w.queues q ++ [⟨.eNetworkTxEvent, some w.calls, none, true⟩]) := by
    rw [hpush.eq, hprep.eq]
  have hb : b = w.calls := by
    rw [hqueues] at hq'
    by_cases hqq : q' = q
    · subst hqq
      rw [Function.update_self] at hq'
      simpa using (List.append_cancel_left hq').symm
    · rw [Function.update_of_ne hqq] at hq'
      simp at hq'
  subst hb
  rw [hpush.eq]
  exact hframe

theorem DatagramFrame.received {v w : World} {b c : BufId} (h : DatagramFrame (w.mem b) (w.bufs b).xDataLength p usPort)
    (hf : frameOf v c = frameOf w b) : DatagramFrame (v.mem c) (v.bufs c).xDataLength p usPort := by
  have hlen : (v.bufs c).xDataLength = (w.bufs b).xDataLength := by
    have := congrArg List.length hf
    simpa [frameOf] using this
  rw [frameOf, frameOf, hlen] at hf
  rw [hlen]
  exact h.congr hf

/-! ## What is returned -/

/-- The number of bytes is the length of the payload, or the size of the buffer if that is less, only when the
header does not count. -/
theorem min_length_iff {c n : Nat} : min c ((n + 8) % 65536) = min c n ↔ c ≤ n ∧ c ≤ (n + 8) % 65536 := by omega

/-- The first vector of the user is filled from the frame; the others are left alone. -/
theorem takenMessage_first {w : World} {b : BufId} {x : Msghdr} {c : Nat} {dst : List UInt8}
    {us : List (List UInt8 × Nat)} {u : UserMsghdr} (uxLength : Nat) (hu : u.msgIov = some ((dst, c) :: us))
    (hlen : 1 ≤ u.msgIovlen) :
    ∃ u' : UserMsghdr, takenMessage w x b uxLength u = some (((min c (payloadOf (w.mem b) uxLength).2 : Nat) : Int), u') ∧
      u'.msgIov = some ((copyTo dst ((w.mem b).read (payloadOf (w.mem b) uxLength).1
        (min c (payloadOf (w.mem b) uxLength).2)), min c (payloadOf (w.mem b) uxLength).2) :: us) := by
  have hname : ∀ heap, (copiedName heap x u).msgIov = some ((dst, c) :: us) ∧
      (copiedName heap x u).msgIovlen = u.msgIovlen := by
    intro heap
    unfold copiedName
    split <;> exact ⟨hu, rfl⟩
  have hcontrol : ∀ heap u, (copiedControl heap x u).msgIov = u.msgIov := by
    intro heap u
    unfold copiedControl
    split <;> rfl
  simp only [takenMessage, copiedIov, (hname w.heap).1, (hname w.heap).2, Nat.min_eq_right hlen, copiedPayload,
    Option.map_some]
  exact ⟨_, rfl, hcontrol _ _⟩

theorem hasFlag_two_pow (xFlags i : Nat) : hasFlag xFlags (2 ^ i) = xFlags.testBit i := by
  rw [hasFlag, Nat.and_two_pow]
  cases xFlags.testBit i with
  | true => simp
  | false => simp

/-- The flag for the error queue is a bit that the subtraction clears. -/
theorem hasFlag_cleared {xFlags : Nat} (h : hasFlag xFlags freertosMsgErrqueue = true) :
    hasFlag (xFlags - freertosMsgErrqueue) freertosMsgErrqueue = false := by
  rw [show freertosMsgErrqueue = 2 ^ 14 from rfl, hasFlag_two_pow, Nat.testBit_eq_decide_div_mod_eq] at h ⊢
  rw [decide_eq_true_eq] at h
  rw [decide_eq_false_iff_not]
  omega

theorem recvfrom_flags (xFlags : Nat) :
    hasFlag (if hasFlag xFlags freertosMsgErrqueue then xFlags - freertosMsgErrqueue else xFlags)
      freertosMsgErrqueue = false := by
  split
  · rename_i h
    exact hasFlag_cleared h
  · rename_i h
    rwa [Bool.not_eq_true] at h

/-! ## From the driver to the waiting list -/

section Receiver

variable {cfg : Config} {v v' w w' : World} {b : BufId} {t : Addr} {s : TSNSocket}

theorem BoundTo.same (h : BoundTo w usPort t s) (hl : w'.xTSNBoundUDPSocketList = w.xTSNBoundUDPSocketList)
    (hh : w'.heap = w.heap) : BoundTo w' usPort t s :=
  ⟨h.nonzero, by rw [hl]; exact h.listed, by rw [hh]; exact h.socket⟩

instance (pxMsgh : Option Addr) : IsPreorder World (LeftAlone b pxMsgh) where
  refl _ := ⟨rfl, rfl, fun _ _ _ h => ⟨h, fun _ _ => rfl⟩⟩
  trans w w' w'' h h' := by
    refine ⟨h'.bufs.trans h.bufs, h'.mem.trans h.mem, ?_⟩
    intro a m ha hm
    obtain ⟨hm', hi⟩ := h.msghdr a m ha hm
    obtain ⟨hm'', hi'⟩ := h'.msghdr a m ha hm'
    exact ⟨hm'', fun y hy => (hi' y hy).trans (hi y hy)⟩

theorem pushed_leftAlone {q : QueueHandle} {xItem : NetworkQueueItem} (h : Pushed w w' q xItem) (b : BufId)
    (pxMsgh : Option Addr) : LeftAlone b pxMsgh w w' := by
  rw [h.eq]
  exact ⟨rfl, rfl, fun _ _ _ h => ⟨h, fun _ _ => rfl⟩⟩

theorem LeftAlone.carries {a i : Addr} {x : Msghdr} {k : Nat} (h : LeftAlone b (some a) w w') (hc : Carries w a b x i k) :
    Carries w' a b x i k := by
  obtain ⟨hm, hi⟩ := h.msghdr a x rfl hc.msghdr
  refine ⟨hm, hc.msgFlags, hc.msgIov, hc.msgIovlen, ?_⟩
  rw [hi i hc.msgIov]
  exact hc.iovec

/-- The item of a datagram when it waits at the socket: its message refers to the frame. -/
structure AtSocket (w : World) (b : BufId) (m : Mem) (n : Nat) : Prop where
  mem : w.mem b = m
  waits : ∃ a x i, (w.bufs b).pucEthernetBuffer = .blk a ∧ Carries w a b x i n

/-- The reception ends with an item only when there is memory for the message. -/
theorem prvHandleReceive_datagram (hw : HeapOk v) (htb : TimebaseOk v) (hd : Deliverable v b)
    (hf : DatagramFrame (v.mem b) (v.bufs b).xDataLength p usPort) (hbound : BoundTo v usPort t s)
    {xItem : NetworkQueueItem} (h : (prvHandleReceive b).run v = .ok (some xItem) v') :
    v'.mem b = v.mem b ∧
      v'.bufs b = { v.bufs b with usBoundPort := usPort, usPort := (portsOf (v.mem b)).2 } ∧
      ∃ a x, xItem = rxItem b (some a) ∧ v'.heap a = some (.msghdr x) ∧ x.msgFlags = 0 ∧
        ((∃ i, Carries v' a b x i (v.bufs b).xDataLength) ∨ x.msgIov = none) := by
  obtain ⟨v₀, hparse, hfs, hm₀, hb₀⟩ := run_prvParseFrame_untagged hd.pucEthernetBuffer hd.xDataLength hf.untagged
  have hbound₀ : BoundTo v₀ usPort t s := hbound.same (by rw [hfs.eq]) (by rw [hfs.eq])
  have hp₀ : (v₀.bufs b).pucEthernetBuffer = .eth b 0 := by rw [hb₀]; exact hd.pucEthernetBuffer
  have hport : (parsedOf (v.mem b)).usDestinationPort = usPort := hf.portsOf
  have h0 : (parsedOf (v.mem b)).usDestinationPort ≠ 0 := by rw [hport]; exact hbound.nonzero
  have hl : prvLookup (parsedOf (v.mem b)).usDestinationPort v₀.xTSNBoundUDPSocketList = some t := by
    rw [hport]
    exact hbound₀.listed
  cases hmal : v₀.env.pvPortMalloc v₀.calls with
  | false =>
      rw [prvHandleReceive_tsn_null hparse h0 hl hbound₀.socket hmal] at h
      exact nomatch h
  | true =>
      obtain ⟨v₁, n, x, hrun, he, ha, hflags, -, hiov⟩ :=
        prvHandleReceive_tsn (hfs.heapOk hw) (hfs.timebaseOk htb) hparse h0 hl hbound₀.socket hp₀ hmal
      rw [hrun] at h
      split at h
      · cases h
        refine ⟨by rw [he.step.mem, hm₀], by rw [he.step.bufs, hb₀, hf.portsOf], v₀.calls, x, rfl, ha, hflags, ?_⟩
        rw [hb₀] at hiov
        split at hiov
        · exact .inl hiov
        · exact .inr hiov
      · exact nomatch h

/-- The delivery ends only when the message has a vector. -/
theorem prvDeliverFrame_datagram (hd : Deliverable v b)
    (hf : DatagramFrame (v.mem b) (v.bufs b).xDataLength p usPort) (hbound : BoundTo v usPort t s)
    (hport : (v.bufs b).usBoundPort = usPort) {a : Addr} {x : Msghdr} (ha : v.heap a = some (.msghdr x))
    (hflags : x.msgFlags = 0) (hc : (∃ i, Carries v a b x i n) ∨ x.msgIov = none) {xUsingIPTask : Bool}
    (h : (prvDeliverFrame cfg (rxItem b (some a)) xUsingIPTask).run v = .ok () v') :
    v'.mem b = v.mem b ∧ (v'.bufs b).pucEthernetBuffer = .blk a ∧ ∃ i, Carries v' a b x i n := by
  obtain ⟨v₁, hfs, hm₁, ⟨ip, hip⟩, hrun⟩ := run_prvDeliverFrame cfg (rfl : (rxItem b (some a)).pxBuf = some b) hd xUsingIPTask
  have hinspected : inspected v b = some ipProtocolUdp := by
    have hlen := hf.uxLength
    rw [inspected, if_pos hf.usFrameType, if_neg (by omega), hf.protocolOf]
  have hl₁ : prvLookup (v₁.bufs b).usBoundPort v₁.xTSNBoundUDPSocketList = some t := by
    rw [hip, hfs.eq]
    dsimp only
    rw [hport]
    exact hbound.listed
  have hheap : v₁.heap = v.heap := by rw [hfs.eq]
  have hp₁ : (v₁.bufs b).pucEthernetBuffer = .eth b 0 := by rw [hip]; exact hd.pucEthernetBuffer
  rw [hrun, hinspected] at h
  dsimp only at h
  rw [prvDispatchFrame_tsn hl₁ (by rw [hheap]; exact hbound.socket)] at h
  rcases hc with ⟨i, hc⟩ | hnone
  · have hc₁ : Carries v₁ a b x i n := ⟨by rw [hheap]; exact hc.msghdr, hc.msgFlags, hc.msgIov, hc.msgIovlen,
      by rw [hheap]; exact hc.iovec⟩
    rw [prvReceiveUDPPacketTSN_carries rfl rfl hc₁ hp₁] at h
    obtain ⟨y, -, rfl⟩ := prvWaitForUser_inv h
    refine ⟨?_, by simp [waitingAfter], i, hc₁.msghdr, hc₁.msgFlags, hc₁.msgIov, hc₁.msgIovlen, hc₁.iovec⟩
    rw [waitingAfter, World.setBaseSocket_mem, World.setBuf_mem, hm₁]
  · rw [prvReceiveUDPPacketTSN_noVector rfl (by rw [hheap]; exact ha) hflags hnone] at h
    cases h

theorem Passage.atSocket (hw : HeapOk v) (htb : TimebaseOk v) (hd : Deliverable v b)
    (hf : DatagramFrame (v.mem b) (v.bufs b).xDataLength p usPort) (h : Passage cfg usPort t s b v v') :
    AtSocket v' b (v.mem b) (v.bufs b).xDataLength := by
  obtain @⟨v₁, v₂, v₃, v₄, _, xItem, uxTimeout, xUsingIPTask, hbound, hreceive, hqueue, hwait, hbound₃, hdeliver,
    hleft⟩ := h
  obtain ⟨hm₁, hb₁, a, x, rfl, ha, hflags, hc⟩ := prvHandleReceive_datagram hw htb hd hf hbound hreceive
  obtain ⟨q, hpush⟩ := exec_insert_inv hqueue
  have hqueued : LeftAlone b (some a) v₁ v₃ := trans_of (LeftAlone b (some a)) (pushed_leftAlone hpush b (some a)) hwait
  obtain ⟨hdead, hi⟩ := hqueued.msghdr a x rfl ha
  have hm₃ : v₃.mem b = v.mem b := hqueued.mem.trans hm₁
  have hb₃ := hqueued.bufs.trans hb₁
  have hd₃ : Deliverable v₃ b := ⟨by rw [hb₃]; exact hd.pucEthernetBuffer, by rw [hb₃]; exact hd.pxInterface,
    by rw [hb₃]; exact hd.pxEndPoint, by rw [hb₃]; exact hd.xDataLength⟩
  have hf₃ : DatagramFrame (v₃.mem b) (v₃.bufs b).xDataLength p usPort := by
    rw [hm₃, hb₃]
    exact hf
  have hc₃ : (∃ i, Carries v₃ a b x i (v.bufs b).xDataLength) ∨ x.msgIov = none := by
    rcases hc with ⟨i, hc⟩ | hnone
    · exact .inl ⟨i, hqueued.carries hc⟩
    · exact .inr hnone
  obtain ⟨hm₄, hp₄, i, hc₄⟩ := prvDeliverFrame_datagram hd₃ hf₃ hbound₃ (by rw [hb₃]) hdead hflags hc₃ hdeliver
  exact ⟨hleft.mem.trans (hm₄.trans hm₃), a, x, i, by rw [hleft.bufs]; exact hp₄, hleft.carries hc₄⟩

/-- What `FreeRTOS_TSN_recvfrom` returns with a datagram that waits. -/
theorem recvfrom_datagram {x : BaseSocket} {rest : List BufId}
    (hf : DatagramFrame m n p usPort) (hw : AtSocket w b m n) (hok : TsnSocketOk w t s x) (hb : x.bBound = true)
    (hfirst : x.xWaitingPacketsList = b :: rest) (pvBuffer : List UInt8) (xFlags : Nat)
    (pxSourceAddress : Option (List UInt8)) :
    ∃ u w', (freeRtosTsnRecvfrom t pvBuffer pvBuffer.length xFlags pxSourceAddress).run w =
        .ok ((min pvBuffer.length ((p.length + 8) % 65536) : Nat), some u) w' ∧
      u.msgIov = some [(copyTo pvBuffer (m.read (sizeOfIPPacket + ipSizeOfUdpHeader)
        (min pvBuffer.length ((p.length + 8) % 65536))), min pvBuffer.length ((p.length + 8) % 65536))] := by
  obtain ⟨hmem, a, y, i, hp, hc⟩ := hw
  let u₀ : UserMsghdr := ⟨pxSourceAddress, Sockaddr.size, some [(pvBuffer, pvBuffer.length)], 1, none, 0, 0⟩
  have hflag := recvfrom_flags xFlags
  obtain ⟨u, htaken, hiov⟩ := takenMessage_first (w := w) (b := b) (x := y) (u := u₀) n rfl (Nat.le_refl 1)
  rw [hmem, hf.payloadOf] at htaken hiov
  have hpacket := recvmsg_packet hok hb hflag hfirst hp hc u₀
  rw [htaken] at hpacket
  obtain ⟨w', hrun, -⟩ := hpacket
  refine ⟨u, w', ?_, hiov⟩
  rw [freeRtosTsnRecvfrom]
  exact hrun

theorem getsPayload_iff {x : BaseSocket} {rest : List BufId} {pvBuffer : List UInt8}
    (hf : DatagramFrame m n p usPort) (hw : AtSocket w b m n) (hok : TsnSocketOk w t s x) (hb : x.bBound = true)
    (hfirst : x.xWaitingPacketsList = b :: rest) (xFlags : Nat) (pxSourceAddress : Option (List UInt8)) :
    GetsPayload t p pvBuffer xFlags pxSourceAddress w ↔
      pvBuffer.length ≤ p.length ∧ pvBuffer.length ≤ (p.length + 8) % 65536 := by
  obtain ⟨u, w', hrun, hiov⟩ := recvfrom_datagram hf hw hok hb hfirst pvBuffer xFlags pxSourceAddress
  rw [← min_length_iff]
  constructor
  · rintro ⟨u₁, w₁, hrun₁, -⟩
    rw [hrun] at hrun₁
    simp only [EStateM.Result.ok.injEq, Prod.mk.injEq, Int.natCast_inj] at hrun₁
    exact hrun₁.1.1
  · intro hmin
    rw [hmin] at hrun hiov
    refine ⟨u, w', hrun, ?_⟩
    rw [hiov, hf.take_payload (Nat.min_le_right _ _)]

end Receiver

end FreeRtosTsn.Packet
