import FreeRtosTsn.Resources.Places
import FreeRtosTsn.Packet.Lemmas.Arrive

/-!
# What a delivery does with the buffer and the message

Each exit of `prvDeliverFrame` moves the buffer and the message to some place, or leaves them where they are.
-/

namespace FreeRtosTsn.Resources

open Lib Kernel Packet

variable {cfg : Config} {w w' : World} {b c : BufId} {a : Addr} {m : Msghdr} {xItem : NetworkQueueItem}

/-! ## Looking at the frame -/

theorem bufCount_frame (h : FrameStep b w w') (c : BufId) (p : BufPlace) :
    BufPlace.count w' c p = BufPlace.count w c p := by
  rw [h.eq]
  cases p <;> rfl

theorem msgCount_frame (h : FrameStep b w w') (a : Addr) (p : MsgPlace) : MsgPlace.count w' a p = MsgPlace.count w a p := by
  have hptr : ∀ c, (w'.bufs c).pucEthernetBuffer = (w.bufs c).pucEthernetBuffer := by
    intro c
    by_cases hc : c = b
    · rw [hc]
      exact h.pucEthernetBuffer
    · rw [h.bufs c hc]
  cases p with
  | freed => rw [h.eq]; rfl
  | errQueue q => rw [h.eq]; rfl
  | waiting k =>
      have hwait : waiting w' k = waiting w k := by rw [h.eq]; rfl
      simp only [MsgPlace.count, hwait, hptr]

theorem ItemOwns.frame (h : ItemOwns w xItem) (hf : FrameStep b w w') (hb : xItem.pxBuf = some b) : ItemOwns w' xItem where
  heapOk := hf.heapOk h.heapOk
  pucEthernetBuffer c hc := by
    cases hb.symm.trans hc
    exact hf.pucEthernetBuffer.trans (h.pucEthernetBuffer b hb)
  buf c hc p := (bufCount_frame hf c p).trans (h.buf c hc p)
  msghdr a ha := by
    rw [hf.eq]
    exact h.msghdr a ha
  msgh a ha p := (msgCount_frame hf a p).trans (h.msgh a ha p)

/-! ## Handing the buffer over -/

/-- The buffer went to one place, and nothing happened to any message. -/
structure GivenAway (b : BufId) (w w' : World) : Prop where
  handedOver : HandedOver w w'
  added : ∃ p, Added p (BufPlace.count w b) (BufPlace.count w' b)

theorem msgCount_handedOver (h : HandedOver w w') (a : Addr) (p : MsgPlace) :
    MsgPlace.count w' a p = MsgPlace.count w a p := by
  rw [h.eq]
  cases p <;> rfl

theorem releases_release (w : World) (b : BufId) : releases (w.release b) b = releases w b + 1 := by
  simp [releases]

theorem GivenAway.release (w : World) (b : BufId) : GivenAway b w (w.release b) where
  handedOver := .release w b
  added := by
    refine ⟨.released, releases_release w b, ?_⟩
    intro p hp
    cases p with
    | released => exact absurd rfl hp
    | _ => rfl

/-- Calls were made before. -/
theorem GivenAway.of_tick (h : GivenAway b w.tick w') : GivenAway b w w' where
  handedOver := trans_of HandedOver ⟨rfl, Nat.le_succ _⟩ h.handedOver
  added := by
    obtain ⟨p, hp⟩ := h.added
    exact ⟨p, hp.congr (fun q => by cases q <;> rfl) fun _ => rfl⟩

theorem GivenAway.toIPTask (w : World) (b : BufId) : GivenAway b w (w.toIPTask b) where
  handedOver := ⟨rfl, Nat.le_refl _⟩
  added := by
    refine ⟨.ipTask, by simp [BufPlace.count], ?_⟩
    intro p hp
    cases p with
    | ipTask => exact absurd rfl hp
    | _ => rfl

theorem GivenAway.toUDP (w : World) (b : BufId) : GivenAway b w (w.toUDP b) where
  handedOver := ⟨rfl, Nat.le_refl _⟩
  added := by
    refine ⟨.udp, by simp [BufPlace.count], ?_⟩
    intro p hp
    cases p with
    | udp => exact absurd rfl hp
    | _ => rfl

theorem prvToIPTask_givenAway (h : (prvToIPTask b).run w = .ok () w') : GivenAway b w w' := by
  rw [run_prvToIPTask] at h
  cases h
  split
  · exact (GivenAway.toIPTask w.tick b).of_tick
  · exact (GivenAway.release w.tick b).of_tick

/-- The direct way to +TCP. -/
theorem processUDP_givenAway
    (h : (do if !(← xProcessReceivedUDPPacket b) then vReleaseNetworkBufferAndDescriptor b : M Unit).run w = .ok () w') :
    GivenAway b w w' := by
  cases hok : w.env.xProcessReceivedUDPPacket w.calls with
  | true =>
      have hrun : (xProcessReceivedUDPPacket b).run w = .ok true (w.tick.toUDP b) := by
        simp -implicitDefEqProofs [xProcessReceivedUDPPacket, nextCall, hok]
      rw [run_bind_ok hrun] at h
      cases h
      exact (GivenAway.toUDP w.tick b).of_tick
  | false =>
      have hrun : (xProcessReceivedUDPPacket b).run w = .ok false w.tick := by
        simp -implicitDefEqProofs [xProcessReceivedUDPPacket, nextCall, hok]
      rw [run_bind_ok hrun] at h
      cases h
      exact (GivenAway.release w.tick b).of_tick

/-! ## Messages -/

theorem msgCount_setErrQueue (w : World) (q : QueueHandle) (a : Addr) :
    Added (.errQueue q) (MsgPlace.count w a) (MsgPlace.count (w.setErrQueue q (w.errQueues q ++ [a])) a) := by
  refine ⟨by simp [MsgPlace.count], ?_⟩
  intro p hp
  cases p with
  | errQueue q' =>
      have hne : q' ≠ q := fun h => hp (by rw [h])
      simp [MsgPlace.count, Function.update_of_ne hne]
  | _ => rfl

/-- A block of the message is freed once. -/
theorem freed_freeAll (h : HeapOk w) (ha : w.heap a = some (.msghdr m)) {x : Addr} (hx : x ∈ blocks a m) :
    (freeAll w a m).freed.count x = 1 := by
  have hok := h.freeAll ha
  have hmem : x ∈ (freeAll w a m).freed := by
    rw [freeAll_freed]
    exact List.mem_append_right _ hx
  rw [hok.freedOnce.count, if_pos hmem]

theorem msgCount_freeAll (h : HeapOk w) (ha : w.heap a = some (.msghdr m)) :
    Added .freed (MsgPlace.count w a) (MsgPlace.count (freeAll w a m) a) := by
  have heq := (freeAll_heapStep w a m).eq
  have hself : a ∈ blocks a m := mem_blocks.mpr (.inl rfl)
  have hno : w.freed.count a = 0 := by
    apply List.count_eq_zero_of_not_mem
    intro hmem
    rw [(h.freed a hmem).2] at ha
    cases ha
  constructor
  · simp only [MsgPlace.count, freed_freeAll h ha hself, hno]
  · intro p hp
    cases p with
    | freed => exact absurd rfl hp
    | waiting k => rw [heq]; rfl
    | errQueue q => rw [heq]; rfl

theorem bufCount_heapStep (h : HeapStep w w') (c : BufId) (p : BufPlace) : BufPlace.count w' c p = BufPlace.count w c p := by
  rw [h.eq]
  cases p <;> rfl

/-! ## The waiting list -/

theorem waiting_waitingAfter (b : BufId) (a : Addr) {k : SockId} {x : BaseSocket} (hx : w.baseSockets k = some x) (j : SockId) :
    waiting (waitingAfter w b a k x) j = if j = k then waiting w k ++ [b] else waiting w j := by
  by_cases hj : j = k
  · subst hj
    simp [waiting, waitingAfter, hx]
  · simp [waiting, waitingAfter, hj]

theorem bufCount_waiting (b : BufId) (a : Addr) {k : SockId} {x : BaseSocket} (hx : w.baseSockets k = some x) :
    Added (.waiting k) (BufPlace.count w b) (BufPlace.count (waitingAfter w b a k x) b) := by
  constructor
  · simp [BufPlace.count, waiting_waitingAfter b a hx]
  · intro p hp
    cases p with
    | waiting j =>
        have hj : j ≠ k := fun h => hp (by rw [h])
        simp [BufPlace.count, waiting_waitingAfter b a hx, hj]
    | _ => rfl

/-- The new entry owns the message, if the buffer waited nowhere before. -/
theorem msgCount_waiting (hb : ∀ j, b ∉ waiting w j) (a : Addr) {k : SockId} {x : BaseSocket}
    (hx : w.baseSockets k = some x) :
    Added (.waiting k) (MsgPlace.count w a) (MsgPlace.count (waitingAfter w b a k x) a) := by
  have hold : ∀ j, ((waiting w j).countP fun c => ((waitingAfter w b a k x).bufs c).pucEthernetBuffer == .blk a) =
      (waiting w j).countP fun c => (w.bufs c).pucEthernetBuffer == .blk a := by
    intro j
    apply List.countP_congr
    intro c hc
    have hne : c ≠ b := by
      rintro rfl
      exact hb j hc
    simp [waitingAfter, Function.update_of_ne hne]
  have hnew : ((waitingAfter w b a k x).bufs b).pucEthernetBuffer = .blk a := by simp [waitingAfter]
  constructor
  · simp [MsgPlace.count, waiting_waitingAfter b a hx, List.countP_append, hold, hnew]
  · intro p hp
    cases p with
    | waiting j =>
        have hj : j ≠ k := fun h => hp (by rw [h])
        simp only [MsgPlace.count, waiting_waitingAfter b a hx, if_neg hj, hold]
    | _ => rfl

/-! ## The exits -/

/-- A message that is nowhere is leaked. -/
theorem not_settled_of_leak (ha : xItem.pxMsgh = some a) (h0 : ∀ p, MsgPlace.count w' a p = 0) : ¬Settled xItem w w' :=
  fun h => (h.msgh a ha).not_zero h0

theorem settled_of_noMsgh (ha : xItem.pxMsgh = none) (hb : ∀ b, xItem.pxBuf = some b → Once (BufPlace.count w' b)) :
    Settled xItem w w' := by
  refine ⟨hb, ?_, ?_⟩
  · intro a h
    rw [ha] at h
    cases h
  · intro a m h
    rw [ha] at h
    cases h

/-- The frame was ignored: buffer and message stay where they are. -/
theorem not_settled_ignored (hown : ItemOwns w xItem) (hb : xItem.pxBuf = some b) : ¬Settled xItem w w :=
  fun h => (h.buf b hb).not_zero (hown.buf b hb)

/-- The buffer was handed over, and the message, if there is one, forgotten. -/
theorem settled_givenAway (hown : ItemOwns w xItem) (hb : xItem.pxBuf = some b) (h : GivenAway b w w') :
    Settled xItem w w' ↔ xItem.pxMsgh = none := by
  constructor
  · intro hs
    cases ha : xItem.pxMsgh with
    | none => rfl
    | some a =>
        have h0 : ∀ p, MsgPlace.count w' a p = 0 := fun p => (msgCount_handedOver h.handedOver a p).trans (hown.msgh a ha p)
        exact absurd hs (not_settled_of_leak ha h0)
  · intro ha
    apply settled_of_noMsgh ha
    intro c hc
    cases hb.symm.trans hc
    obtain ⟨p, hp⟩ := h.added
    exact hp.once (hown.buf b hb)

/-- The message is freed with its parts, and the buffer handed over. -/
theorem settled_freed (hown : ItemOwns w xItem) (hb : xItem.pxBuf = some b) (ha : xItem.pxMsgh = some a)
    (hm : w.heap a = some (.msghdr m)) (h : GivenAway b (freeAll w a m) w') : Settled xItem w w' := by
  have hfreed : w'.freed = (freeAll w a m).freed := by rw [h.handedOver.eq]
  refine ⟨?_, ?_, ?_⟩
  · intro c hc
    cases hb.symm.trans hc
    obtain ⟨p, hp⟩ := h.added
    exact hp.once fun q => (bufCount_heapStep (freeAll_heapStep w a m) b q).trans (hown.buf b hb q)
  · intro a' ha'
    cases ha.symm.trans ha'
    have hadd := (msgCount_freeAll hown.heapOk hm).congr (fun _ => rfl) (msgCount_handedOver h.handedOver a)
    exact hadd.once (hown.msgh a ha)
  · intro a' m' ha' hm' p x hx
    cases ha.symm.trans ha'
    cases hm.symm.trans hm'
    rw [hfreed, freed_freeAll hown.heapOk hm (mem_blocks.mpr (.inr ⟨p, hx⟩)),
      freed_freeAll hown.heapOk hm (mem_blocks.mpr (.inl rfl))]

theorem prvDeliverToPlainSocket_settled {ucProto : UInt8} {xUsingIPTask : Bool} (hown : ItemOwns w xItem)
    (hb : xItem.pxBuf = some b) (hrun : (prvDeliverToPlainSocket xItem b ucProto xUsingIPTask).run w = .ok () w') :
    Settled xItem w w' := by
  have hgive : ∀ {w₁}, (vFreeAllNotNull xItem.pxMsgh).run w = .ok () w₁ → GivenAway b w₁ w' := by
    intro w₁ hfree
    rw [prvDeliverToPlainSocket, run_bind_ok hfree] at hrun
    by_cases hgo : (xUsingIPTask || ucProto != ipProtocolUdp) = true
    · rw [if_pos hgo] at hrun
      exact prvToIPTask_givenAway hrun
    · rw [if_neg hgo] at hrun
      exact processUDP_givenAway hrun
  cases ha : xItem.pxMsgh with
  | none =>
      have hfree : (vFreeAllNotNull xItem.pxMsgh).run w = .ok () w := by
        rw [ha]
        rfl
      exact (settled_givenAway hown hb (hgive hfree)).mpr ha
  | some a =>
      obtain ⟨m, hm⟩ := hown.msghdr a ha
      have hfree : (vFreeAllNotNull xItem.pxMsgh).run w = .ok () (freeAll w a m) := by
        rw [ha]
        exact run_vAncillaryMsgFreeAll hown.heapOk.toMsgHeap hm
      exact settled_freed hown hb ha hm (hgive hfree)

/-! ## A TSN socket -/

/-- Nothing was freed, and buffer and message are each in one place more. -/
theorem settled_of_added (hown : ItemOwns w xItem) (hb : xItem.pxBuf = some b) (ha : xItem.pxMsgh = some a)
    {p : BufPlace} {q : MsgPlace} (hp : Added p (BufPlace.count w b) (BufPlace.count w' b))
    (hq : Added q (MsgPlace.count w a) (MsgPlace.count w' a)) (hfreed : w'.freed = w.freed) : Settled xItem w w' := by
  refine ⟨?_, ?_, ?_⟩
  · intro c hc
    cases hb.symm.trans hc
    exact hp.once (hown.buf b hb)
  · intro a' ha'
    cases ha.symm.trans ha'
    exact hq.once (hown.msgh a ha)
  · intro a' m' ha' hm' r x hx
    have hlive : ∀ {y}, w.heap y ≠ none → w'.freed.count y = 0 := by
      intro y hy
      rw [hfreed]
      exact List.count_eq_zero_of_not_mem fun hmem => hy (hown.heapOk.freed y hmem).2
    rw [hlive (hown.heapOk.part_ne_none hm' hx), hlive (by rw [hm']; exact Option.some_ne_none _)]

theorem run_xSocketErrorQueueInsert {t : Addr} {s : TSNSocket} (hs : w.heap t = some (.tsnSocket s)) (a : Addr) :
    (xSocketErrorQueueInsert cfg t a).run w =
      if (w.errQueues s.xErrQueue).length < cfg.tsnconfigErrqueueLength then
        .ok true (w.setErrQueue s.xErrQueue (w.errQueues s.xErrQueue ++ [a]))
      else .ok false w := by
  rw [xSocketErrorQueueInsert, run_bind_ok (run_loadTsnSocket hs), run_bind_ok (EStateM.run_get w)]
  split <;> rfl

theorem prvReceiveUDPPacketTSN_settled {t : Addr} {s : TSNSocket} {k : SockId} (hown : ItemOwns w xItem)
    (hb : xItem.pxBuf = some b) (hs : w.heap t = some (.tsnSocket s))
    (hrun : (prvReceiveUDPPacketTSN cfg xItem t k).run w = .ok () w') :
    Settled xItem w w' ↔ ∀ a, xItem.pxMsgh = some a → HasErrRoom cfg w t a := by
  obtain ⟨a, m, ha, hm, hcase⟩ := prvReceiveUDPPacketTSN_inv hb hrun
  have hroom : (∀ a, xItem.pxMsgh = some a → HasErrRoom cfg w t a) ↔ (hasFlag m.msgFlags freertosMsgErrqueue = true →
      (w.errQueues s.xErrQueue).length < cfg.tsnconfigErrqueueLength) := by
    constructor
    · intro h
      exact h a ha s m hs hm
    · intro h a' ha' s' m' hs' hm'
      cases ha.symm.trans ha'
      cases hs.symm.trans hs'
      cases hm.symm.trans hm'
      exact h
  have hrelease := GivenAway.release w b
  have hmsg : ∀ p, MsgPlace.count (w.release b) a p = MsgPlace.count w a p := msgCount_handedOver hrelease.handedOver a
  rw [hroom]
  cases hflag : hasFlag m.msgFlags freertosMsgErrqueue with
  | true =>
      rw [hflag, if_pos rfl] at hcase
      obtain ⟨ok, hins⟩ := hcase
      rw [run_xSocketErrorQueueInsert (w := w.release b) hs a] at hins
      by_cases hfree : (w.errQueues s.xErrQueue).length < cfg.tsnconfigErrqueueLength
      · rw [if_pos (by exact hfree)] at hins
        cases hins
        obtain ⟨p, hp⟩ := hrelease.added
        refine iff_of_true ?_ fun _ => hfree
        have hq := msgCount_setErrQueue (w.release b) s.xErrQueue a
        exact settled_of_added hown hb ha (hp.congr (fun _ => rfl) fun r => by cases r <;> rfl)
          (hq.congr (fun r => (hmsg r).symm) fun _ => rfl) rfl
      · rw [if_neg (by exact hfree)] at hins
        cases hins
        refine iff_of_false ?_ fun h => hfree (h rfl)
        exact not_settled_of_leak ha fun p => (hmsg p).trans (hown.msgh a ha p)
  | false =>
      rw [hflag, if_neg Bool.false_ne_true] at hcase
      obtain ⟨x, hx, rfl⟩ := hcase
      refine iff_of_true ?_ fun h => absurd h Bool.false_ne_true
      have hnot : ∀ j, b ∉ waiting w j := fun j => List.count_eq_zero.mp (hown.buf b hb (.waiting j))
      exact settled_of_added hown hb ha (bufCount_waiting b a hx) (msgCount_waiting hnot a hx) rfl

/-! ## The whole delivery -/

theorem prvDispatchFrame_settled {ucProto : UInt8} {xUsingIPTask : Bool} (hown : ItemOwns w xItem)
    (hb : xItem.pxBuf = some b) (hrun : (prvDispatchFrame cfg xItem b ucProto xUsingIPTask).run w = .ok () w') :
    Settled xItem w w' ↔
      match prvLookup (w.bufs b).usBoundPort w.xTSNBoundUDPSocketList with
      | some t => ∀ a, xItem.pxMsgh = some a → HasErrRoom cfg w t a
      | none => xItem.pxMsgh = none ∨ prvLookup (w.bufs b).usBoundPort w.xBoundUDPSocketsList ≠ none := by
  cases hl : prvLookup (w.bufs b).usBoundPort w.xTSNBoundUDPSocketList with
  | some t =>
      obtain ⟨s, hs, hgo⟩ := prvDispatchFrame_tsn_inv hl hrun
      exact prvReceiveUDPPacketTSN_settled hown hb hs hgo
  | none =>
      cases hk : prvLookup (w.bufs b).usBoundPort w.xBoundUDPSocketsList with
      | some k =>
          rw [prvDispatchFrame_plain hl hk] at hrun
          exact iff_of_true (prvDeliverToPlainSocket_settled hown hb hrun) (.inr (Option.some_ne_none k))
      | none =>
          rw [prvDispatchFrame_none hl hk] at hrun
          rw [settled_givenAway hown hb (prvToIPTask_givenAway hrun)]
          simp

theorem settled_frame (hf : FrameStep b w w') {w'' : World} : Settled xItem w w'' ↔ Settled xItem w' w'' := by
  have hheap : w'.heap = w.heap := by rw [hf.eq]
  constructor
  · rintro ⟨h₁, h₂, h₃⟩
    exact ⟨h₁, h₂, by rw [hheap]; exact h₃⟩
  · rintro ⟨h₁, h₂, h₃⟩
    exact ⟨h₁, h₂, by rw [← hheap]; exact h₃⟩

theorem hasErrRoom_frame (hf : FrameStep b w w') (t a : Addr) : HasErrRoom cfg w' t a ↔ HasErrRoom cfg w t a := by
  rw [hf.eq]
  rfl

theorem settled_noBuf (hown : ItemOwns w xItem) (hb : xItem.pxBuf = none) : Settled xItem w w ↔ xItem.pxMsgh = none := by
  constructor
  · intro hs
    cases ha : xItem.pxMsgh with
    | none => rfl
    | some a => exact absurd hs (not_settled_of_leak ha (hown.msgh a ha))
  · intro ha
    apply settled_of_noMsgh ha
    intro b h
    rw [hb] at h
    cases h

end FreeRtosTsn.Resources
