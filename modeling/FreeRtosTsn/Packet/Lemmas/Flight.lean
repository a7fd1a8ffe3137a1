import FreeRtosTsn.Packet.Lemmas.Forward

/-!
# One item in flight

What a reception and a delivery do to the item they are about, and that they leave everything else as it is.
-/

namespace FreeRtosTsn.Packet

open Lib Kernel

variable {cfg : Config} {w w₁ w' w'' : World} {b c : BufId} {x : Flight} {p : Option Addr} {f : ParsedFrame} {t : Addr}
  {s : TSNSocket}

/-- Nothing was changed but the frame in `b`, its message, and new blocks. -/
structure Leaves (b : BufId) (pxMsgh : Option Addr) (w w' : World) : Prop where
  heapOk : HeapOk w'
  timebase : TimebaseOk w'
  tsn : w'.xTSNBoundUDPSocketList = w.xTSNBoundUDPSocketList
  bufs : ∀ c, c ≠ b → w'.bufs c = w.bufs c
  heap : ∀ {y d}, w.heap y = some d → (∀ a m, pxMsgh = some a → w.heap a = some (.msghdr m) → y ∉ blocks a m) →
    w'.heap y = some d
  base : ∀ {k x}, w.baseSockets k = some x → ∃ x', w'.baseSockets k = some x' ∧ x'.bBound = x.bBound

/-- The item of the frame in `b`, as `prvHandleReceive` leaves it. -/
structure FlightOk (w : World) (b : BufId) (x : Flight) : Prop where
  pucEthernetBuffer : (w.bufs b).pucEthernetBuffer = .eth b 0
  vector : x.bVector = true → x.pxMsgh ≠ none
  msgh : ∀ a, x.pxMsgh = some a → ∃ m, w.heap a = some (.msghdr m) ∧ m.msgFlags = 0 ∧
    if x.bVector then ∃ i n, Carries w a b m i n else m.msgIov = none

/-! ## Steps that leave the rest alone -/

theorem FrameStep.timebaseOk (h : FrameStep b w w') (htb : TimebaseOk w) : TimebaseOk w' := by
  rw [h.eq]
  exact htb

theorem FrameStep.leaves (h : FrameStep b w w') (hw : HeapOk w) (htb : TimebaseOk w) (p : Option Addr) :
    Leaves b p w w' where
  heapOk := h.heapOk hw
  timebase := h.timebaseOk htb
  tsn := by rw [h.eq]
  bufs := h.bufs
  heap hy _ := by
    rw [h.eq]
    exact hy
  base hk := by
    rw [h.eq]
    exact ⟨_, hk, rfl⟩

namespace Leaves

theorem trans (h : Leaves b none w w') (h' : Leaves b none w' w'') : Leaves b none w w'' where
  heapOk := h'.heapOk
  timebase := h'.timebase
  tsn := h'.tsn.trans h.tsn
  bufs c hc := (h'.bufs c hc).trans (h.bufs c hc)
  heap hy _ := h'.heap (h.heap hy fun _ _ ha => nomatch ha) fun _ _ ha => nomatch ha
  base hk := by
    obtain ⟨x', hk', hb'⟩ := h.base hk
    obtain ⟨x'', hk'', hb''⟩ := h'.base hk'
    exact ⟨x'', hk'', hb''.trans hb'⟩

theorem extend (h : Leaves b none w w') (he : Extends w' w'') : Leaves b none w w'' := by
  apply h.trans
  have heq := he.step.eq
  refine ⟨he.heapOk, ?_, by rw [heq], fun c _ => by rw [he.step.bufs], ?_, ?_⟩
  · rw [heq]
    exact h.timebase
  · intro y d hy _
    rw [he.old y (h.heapOk.lt_calls hy)]
    exact hy
  · intro k x hk
    rw [heq]
    exact ⟨x, hk, rfl⟩

end Leaves

/-- Only what was handed over or released is longer, and calls were made. -/
structure HandedOver (w w' : World) : Prop where
  eq : w' = { w with
    calls := w'.calls, released := w'.released, ipTaskEvents := w'.ipTaskEvents, udpProcessed := w'.udpProcessed }
  calls_le : w.calls ≤ w'.calls

instance : IsPreorder World HandedOver where
  refl _ := ⟨rfl, Nat.le_refl _⟩
  trans w w' w'' h h' := by
    refine ⟨?_, Nat.le_trans h.calls_le h'.calls_le⟩
    have := h'.eq
    rw [h.eq] at this
    exact this

theorem HandedOver.release (w : World) (b : BufId) : HandedOver w (w.release b) := ⟨rfl, Nat.le_refl _⟩

theorem prvToIPTask_handedOver (w : World) (b : BufId) : ∃ w', (prvToIPTask b).run w = .ok () w' ∧ HandedOver w w' := by
  refine ⟨_, run_prvToIPTask, ?_⟩
  split
  · exact ⟨rfl, Nat.le_succ _⟩
  · exact ⟨rfl, Nat.le_succ _⟩

theorem Leaves.handedOver (h : Leaves b p w w') (hh : HandedOver w' w'') : Leaves b p w w'' where
  heapOk := by
    have hok := h.heapOk
    refine ⟨by rw [hh.eq]; exact hok.toMsgHeap, ?_, ?_, by rw [hh.eq]; exact hok.freedOnce⟩
    · intro y hy
      rw [hh.eq]
      exact hok.fresh y (Nat.le_trans hh.calls_le hy)
    · intro y hy
      rw [hh.eq] at hy
      refine ⟨Nat.lt_of_lt_of_le (hok.freed y hy).1 hh.calls_le, ?_⟩
      rw [hh.eq]
      exact (hok.freed y hy).2
  timebase := by
    rw [hh.eq]
    exact h.timebase
  tsn := by
    rw [hh.eq]
    exact h.tsn
  bufs := by
    rw [hh.eq]
    exact h.bufs
  heap := by
    rw [hh.eq]
    exact h.heap
  base := by
    rw [hh.eq]
    exact h.base

theorem FlightOk.leaves (h : FlightOk w c x) (hl : Leaves b p w w') (hw : MsgHeap w.heap) (hne : c ≠ b)
    (hd : ∀ a, x.pxMsgh = some a → p ≠ some a) : FlightOk w' c x where
  pucEthernetBuffer := by
    rw [hl.bufs c hne]
    exact h.pucEthernetBuffer
  vector := h.vector
  msgh := by
    intro a ha
    obtain ⟨m, hm, hf, hv⟩ := h.msgh a ha
    have hkeep : ∀ {y d}, y ∈ blocks a m → w.heap y = some d → w'.heap y = some d := by
      intro y d hy hd'
      apply hl.heap hd'
      intro a' m' hp hm'
      apply hw.blocks_disjoint hm hm' _ hy
      rintro rfl
      exact hd a ha hp
    refine ⟨m, hkeep (mem_blocks.mpr (.inl rfl)) hm, hf, ?_⟩
    by_cases hb : x.bVector = true
    · rw [if_pos hb] at hv ⊢
      obtain ⟨i, n, hc⟩ := hv
      exact ⟨i, n, hkeep (mem_blocks.mpr (.inl rfl)) hm, hf, hc.msgIov, hc.msgIovlen,
        hkeep (mem_blocks.mpr (.inr ⟨.iov, hc.msgIov⟩)) hc.iovec⟩
    · rw [if_neg hb] at hv ⊢
      exact hv

/-! ## Reception -/

theorem Extends.refl (h : HeapOk w) : Extends w w := ⟨h, refl_of HeapStep w, fun _ _ => rfl, rfl⟩

/-- What a reception that ends leaves: the item, if there is one, and everything else as it was. -/
structure ReceivedAs (w : World) (b : BufId) (v : Bool) (r : Option NetworkQueueItem) (w' : World) : Prop where
  leaves : Leaves b none w w'
  item : ∀ xItem, r = some xItem → xItem = rxItem b xItem.pxMsgh ∧ FlightOk w' b ⟨xItem.pxMsgh, v⟩
  new : ∀ xItem a, r = some xItem → xItem.pxMsgh = some a → w.calls ≤ a

/-- The item of a reception is made or not; nothing else is decided by this. -/
theorem ReceivedAs.of_flight {p : Option Addr} {v : Bool} (hl : Leaves b none w w') (hf : FlightOk w' b ⟨p, v⟩)
    (hnew : ∀ a, p = some a → w.calls ≤ a) (ok : Bool) :
    ReceivedAs w b v (if ok then some (rxItem b p) else none) w' := by
  cases ok with
  | true =>
      refine ⟨hl, fun xItem hr => ?_, fun xItem a hr ha => ?_⟩
      · cases hr
        exact ⟨rfl, hf⟩
      · cases hr
        exact hnew a ha
  | false => exact ⟨hl, fun _ hr => (nomatch hr), fun _ _ hr => (nomatch hr)⟩

theorem ReceivedAs.noMsgh (hl : Leaves b none w w') (hp : (w'.bufs b).pucEthernetBuffer = .eth b 0) (ok : Bool) :
    ReceivedAs w b false (if ok then some (rxItem b none) else none) w' := by
  have hflight : FlightOk w' b ⟨none, false⟩ := ⟨hp, fun h => (nomatch h), fun _ h => (nomatch h)⟩
  have hnew : ∀ a, none = some a → w.calls ≤ a := fun _ h => nomatch h
  exact .of_flight hl hflight hnew ok

/-- Parsing the frame and then only making new blocks leaves everything else as it was. -/
theorem FrameStep.extends (hfs : FrameStep b w w₁) (hw : HeapOk w) (htb : TimebaseOk w) (he : Extends w₁ w') :
    Leaves b none w w' ∧ (w'.bufs b).pucEthernetBuffer = (w.bufs b).pucEthernetBuffer := by
  refine ⟨(hfs.leaves hw htb none).extend he, ?_⟩
  rw [he.step.bufs]
  exact hfs.pucEthernetBuffer

section Parsed

variable (hw : HeapOk w) (htb : TimebaseOk w) (hp : (w.bufs b).pucEthernetBuffer = .eth b 0) (hfs : FrameStep b w w₁)
  (hparse : (prvParseFrame b).run w = .ok f w₁)
include hw htb hp hfs hparse

/-- Without a TSN socket the item has no message, and a frame for no socket at all has no item. -/
theorem prvHandleReceive_noSocket
    (hno : f.usDestinationPort = 0 ∨ prvLookup f.usDestinationPort w.xTSNBoundUDPSocketList = none) :
    ∃ r w', (prvHandleReceive b).run w = .ok r w' ∧ ReceivedAs w b (hasVector w f) r w' := by
  have hok : HeapOk w₁ := hfs.heapOk hw
  have htsn : w₁.xTSNBoundUDPSocketList = w.xTSNBoundUDPSocketList := by rw [hfs.eq]
  have hv : hasVector w f = false := by
    obtain h0 | hl := hno
    · simp [hasVector, h0]
    · simp [hasVector, hl]
  have hitem : ∀ {w'} (ok : Bool), Extends w₁ w' →
      ReceivedAs w b (hasVector w f) (if ok then some (rxItem b none) else none) w' := by
    intro w' ok he
    obtain ⟨hleaves, hpe⟩ := hfs.extends hw htb he
    rw [hv]
    exact .noMsgh hleaves (hpe.trans hp) ok
  by_cases h0 : f.usDestinationPort = 0
  · obtain ⟨w', hrun, he⟩ := prvHandleReceive_plain hok hparse (.inl h0)
    exact ⟨_, w', hrun, hitem _ he⟩
  have hl₁ : prvLookup f.usDestinationPort w₁.xTSNBoundUDPSocketList = none := by
    rw [htsn]
    exact hno.resolve_left h0
  by_cases hk : prvLookup f.usDestinationPort w₁.xBoundUDPSocketsList = none
  · exact ⟨none, w₁, prvHandleReceive_unbound hparse h0 hl₁ hk, hitem false (.refl hok)⟩
  · obtain ⟨w', hrun, he⟩ := prvHandleReceive_plain hok hparse (.inr ⟨hl₁, hk⟩)
    exact ⟨_, w', hrun, hitem _ he⟩

/-- For a TSN socket with memory for the message, the item has it, with a vector if there is memory for that too. -/
theorem prvHandleReceive_tsnSocket (h0 : f.usDestinationPort ≠ 0)
    (hl : prvLookup f.usDestinationPort w.xTSNBoundUDPSocketList = some t) (hs : w.heap t = some (.tsnSocket s))
    (hm : w.env.pvPortMalloc w.calls = true) :
    ∃ r w', (prvHandleReceive b).run w = .ok r w' ∧ ReceivedAs w b (hasVector w f) r w' := by
  have hcalls : w₁.calls = w.calls := by rw [hfs.eq]
  have hl₁ : prvLookup f.usDestinationPort w₁.xTSNBoundUDPSocketList = some t := by
    rw [hfs.eq]
    exact hl
  have hs₁ : w₁.heap t = some (.tsnSocket s) := by
    rw [hfs.eq]
    exact hs
  have hm₁ : w₁.env.pvPortMalloc w₁.calls = true := by
    rw [hfs.eq]
    exact hm
  obtain ⟨w', n, m, hrun, he, ha, hflags, -, hv⟩ :=
    prvHandleReceive_tsn (hfs.heapOk hw) (hfs.timebaseOk htb) hparse h0 hl₁ hs₁ (hfs.pucEthernetBuffer.trans hp) hm₁
  obtain ⟨hleaves, hpe⟩ := hfs.extends hw htb he
  have hvector : hasVector w f = w₁.env.pvPortMalloc (iovecCall w₁ s f) := by
    have henv : w₁.env = w.env := by rw [hfs.eq]
    have hcall : iovecCall w₁ s f = iovecCall w s f := by
      rw [hfs.eq]
      rfl
    simp [hasVector, h0, hl, hs, henv, hcall]
  have hflight : FlightOk w' b ⟨some w₁.calls, hasVector w f⟩ := by
    refine ⟨hpe.trans hp, fun _ h => (nomatch h), fun a ha' => ?_⟩
    cases ha'
    refine ⟨m, ha, hflags, ?_⟩
    rw [hvector]
    by_cases hmal : w₁.env.pvPortMalloc (iovecCall w₁ s f) = true
    · rw [if_pos hmal] at hv ⊢
      obtain ⟨i, hc⟩ := hv
      exact ⟨i, _, hc⟩
    · rw [if_neg hmal] at hv ⊢
      exact hv
  have hnew : ∀ a, some w₁.calls = some a → w.calls ≤ a := by
    intro a ha'
    cases ha'
    exact Nat.le_of_eq hcalls.symm
  exact ⟨_, w', hrun, .of_flight hleaves hflight hnew _⟩

end Parsed

/-- A reception ends unless there is no memory for the message of a TSN socket. -/
theorem prvHandleReceive_cases (hw : HeapOk w) (htb : TimebaseOk w) (hsock : SocketsOk w)
    (hp : (w.bufs b).pucEthernetBuffer = .eth b 0) :
    ∃ f, Parses w b f ∧
      (HasMsgh w f → ∃ r w', (prvHandleReceive b).run w = .ok r w' ∧ ReceivedAs w b (hasVector w f) r w') ∧
      (¬HasMsgh w f → ∃ w', (prvHandleReceive b).run w = .error .null w') := by
  obtain ⟨-, w₀, w₁, -, -, hparse, hfs, -, -⟩ := run_prvParseFrame hp
  generalize parsedOf (w₀.mem b) = f at hparse
  refine ⟨f, ⟨w₁, hparse⟩, ?_⟩
  by_cases hno : f.usDestinationPort = 0 ∨ prvLookup f.usDestinationPort w.xTSNBoundUDPSocketList = none
  · have hhas : HasMsgh w f := fun h0 hl => absurd hno (not_or.mpr ⟨h0, hl⟩)
    exact ⟨fun _ => prvHandleReceive_noSocket hw htb hp hfs hparse hno, fun hnot => absurd hhas hnot⟩
  obtain ⟨h0, hne⟩ := not_or.mp hno
  obtain ⟨t, hl⟩ := Option.ne_none_iff_exists'.mp hne
  obtain ⟨s, hs⟩ := hsock (f.usDestinationPort, t) (prvLookup_mem hl)
  refine ⟨fun hhas => prvHandleReceive_tsnSocket hw htb hp hfs hparse h0 hl hs (hhas h0 hne), fun hnot => ?_⟩
  have hm : w₁.env.pvPortMalloc w₁.calls = false := by
    rw [hfs.eq, Bool.eq_false_iff]
    exact fun htrue => hnot fun _ _ => htrue
  have hl₁ : prvLookup f.usDestinationPort w₁.xTSNBoundUDPSocketList = some t := by
    rw [hfs.eq]
    exact hl
  have hs₁ : w₁.heap t = some (.tsnSocket s) := by
    rw [hfs.eq]
    exact hs
  exact ⟨_, prvHandleReceive_tsn_null hparse h0 hl₁ hs₁ hm⟩

/-! ## Delivery -/

/-- The listed sockets can take packets. -/
def ListedOk (w : World) : Prop :=
  ∀ e ∈ w.xTSNBoundUDPSocketList, ∃ s x, w.heap e.2 = some (.tsnSocket s) ∧ w.baseSockets s.xBaseSocket = some x

theorem prvDeliverFrame_ignored {xItem : NetworkQueueItem} (hb : xItem.pxBuf = some b)
    (hp : (w.bufs b).pucEthernetBuffer = .eth b 0) (hd : ¬Deliverable w b) (xUsingIPTask : Bool) :
    (prvDeliverFrame cfg xItem xUsingIPTask).run w = .ok () w := by
  have hstop : ((w.bufs b).pxInterface.isNone || (w.bufs b).pxEndPoint.isNone ||
      decide ((w.bufs b).xDataLength < ipSizeOfEthHeader)) = true := by
    by_contra hgo
    simp only [Bool.or_eq_true, Option.isNone_iff_eq_none, decide_eq_true_eq, not_or, Nat.not_lt] at hgo
    exact hd ⟨hp, hgo.1.1, hgo.1.2, hgo.2⟩
  simp only [prvDeliverFrame, hb]
  rw [run_bind_ok (run_loadBuf _ _), if_pos hstop]
  rfl

theorem prvDeliverToPlainSocket_leaves (hl : Leaves b p w w') (hsame : w'.heap = w.heap)
    (hp : ∀ a, p = some a → ∃ m, w.heap a = some (.msghdr m)) (ucProto : UInt8) (xUsingIPTask : Bool) :
    ∃ w'', (prvDeliverToPlainSocket (rxItem b p) b ucProto xUsingIPTask).run w' = .ok () w'' ∧ Leaves b p w w'' := by
  have hfree : ∃ w₁, (vFreeAllNotNull p).run w' = .ok () w₁ ∧ Leaves b p w w₁ := by
    cases p with
    | none => exact ⟨w', rfl, hl⟩
    | some a =>
        obtain ⟨m, hm⟩ := hp a rfl
        have hm' : w'.heap a = some (.msghdr m) := by
          rw [hsame]
          exact hm
        have heq := (freeAll_heapStep w' a m).eq
        refine ⟨freeAll w' a m, run_vAncillaryMsgFreeAll hl.heapOk.toMsgHeap hm', hl.heapOk.freeAll hm', ?_, ?_, ?_, ?_, ?_⟩
        · rw [heq]
          exact hl.timebase
        · rw [heq]
          exact hl.tsn
        · rw [heq]
          exact hl.bufs
        · intro y d hy hn
          have hout := hn a m rfl hm
          rw [mem_blocks, not_or, not_exists] at hout
          rw [freeAll_keep w' hout.1 hout.2]
          exact hl.heap hy hn
        · rw [heq]
          exact hl.base
  obtain ⟨w₁, hrun, hl₁⟩ := hfree
  by_cases hgo : (xUsingIPTask || ucProto != ipProtocolUdp) = true
  · obtain ⟨w₂, hrun₂, hh⟩ := prvToIPTask_handedOver w₁ b
    refine ⟨w₂, ?_, hl₁.handedOver hh⟩
    rw [prvDeliverToPlainSocket, rxItem, run_bind_ok hrun, if_pos hgo, hrun₂]
  · have hproc : ∃ ok w₂, (xProcessReceivedUDPPacket b).run w₁ = .ok ok w₂ ∧ HandedOver w₁ w₂ := by
      cases h : w₁.env.xProcessReceivedUDPPacket w₁.calls with
      | true =>
          refine ⟨true, w₁.tick.toUDP b, ?_, ⟨rfl, Nat.le_succ _⟩⟩
          simp -implicitDefEqProofs [xProcessReceivedUDPPacket, nextCall, h]
      | false =>
          refine ⟨false, w₁.tick, ?_, ⟨rfl, Nat.le_succ _⟩⟩
          simp -implicitDefEqProofs [xProcessReceivedUDPPacket, nextCall, h]
    obtain ⟨ok, w₂, hrun₂, hh⟩ := hproc
    rw [prvDeliverToPlainSocket, rxItem, run_bind_ok hrun, if_neg hgo, run_bind_ok hrun₂]
    cases ok with
    | true => exact ⟨w₂, rfl, hl₁.handedOver hh⟩
    | false => exact ⟨w₂.release b, rfl, hl₁.handedOver (trans_of HandedOver hh (.release w₂ b))⟩

theorem Leaves.waitingAfter (h : Leaves b p w w') (a : Addr) {k : SockId} {x : BaseSocket}
    (hx : w'.baseSockets k = some x) : Leaves b p w (waitingAfter w' b a k x) where
  heapOk := ⟨h.heapOk.toMsgHeap, h.heapOk.fresh, h.heapOk.freed, h.heapOk.freedOnce⟩
  timebase := h.timebase
  tsn := h.tsn
  bufs c hc := by
    rw [Packet.waitingAfter, World.setBaseSocket_bufs, World.setBuf_bufs, Function.update_of_ne hc]
    exact h.bufs c hc
  heap := h.heap
  base := by
    intro j y hj
    obtain ⟨y', hy', hb⟩ := h.base hj
    by_cases hjk : j = k
    · subst hjk
      rw [hx] at hy'
      cases hy'
      exact ⟨{ x with xWaitingPacketsList := x.xWaitingPacketsList ++ [b] }, by simp [Packet.waitingAfter], hb⟩
    · refine ⟨y', ?_, hb⟩
      rw [Packet.waitingAfter, World.setBaseSocket_baseSockets, Function.update_of_ne hjk]
      exact hy'

/-- A delivery ends, unless a TSN socket gets a frame without a vector. -/
theorem prvDeliverFrame_ok (cfg : Config) (hw : HeapOk w) (htb : TimebaseOk w) (hlisted : ListedOk w) (hx : FlightOk w b x)
    (hgood : ForTsnSocket w b → x.bVector = true) (xUsingIPTask : Bool) :
    ∃ w', (prvDeliverFrame cfg (rxItem b x.pxMsgh) xUsingIPTask).run w = .ok () w' ∧ Leaves b x.pxMsgh w w' := by
  by_cases hd : Deliverable w b
  · have hb : (rxItem b x.pxMsgh).pxBuf = some b := rfl
    obtain ⟨w₁, hfs, -, ⟨ip, hip⟩, hrun⟩ := run_prvDeliverFrame cfg hb hd xUsingIPTask
    have hleaves : Leaves b x.pxMsgh w w₁ := hfs.leaves hw htb _
    have hheap : w₁.heap = w.heap := by rw [hfs.eq]
    have hport : (w₁.bufs b).usBoundPort = (w.bufs b).usBoundPort := by rw [hip]
    rw [hrun]
    cases hi : inspected w b with
    | none => exact ⟨_, rfl, hleaves.handedOver (.release w₁ b)⟩
    | some ucProto =>
        dsimp only
        cases hl : prvLookup (w.bufs b).usBoundPort w.xTSNBoundUDPSocketList with
        | none =>
            have hl₁ : prvLookup (w₁.bufs b).usBoundPort w₁.xTSNBoundUDPSocketList = none := by
              rw [hport, hfs.eq]
              exact hl
            cases hk : prvLookup (w₁.bufs b).usBoundPort w₁.xBoundUDPSocketsList with
            | none =>
                rw [prvDispatchFrame_none hl₁ hk]
                obtain ⟨w₂, hrun₂, hh⟩ := prvToIPTask_handedOver w₁ b
                exact ⟨w₂, hrun₂, hleaves.handedOver hh⟩
            | some k =>
                rw [prvDispatchFrame_plain hl₁ hk]
                apply prvDeliverToPlainSocket_leaves hleaves hheap
                intro a ha
                obtain ⟨m, hm, -⟩ := hx.msgh a ha
                exact ⟨m, hm⟩
        | some t =>
            have hl₁ : prvLookup (w₁.bufs b).usBoundPort w₁.xTSNBoundUDPSocketList = some t := by
              rw [hport, hfs.eq]
              exact hl
            have hv := hgood ⟨hd, by simp [hi], by simp [hl]⟩
            obtain ⟨a, ha⟩ := Option.ne_none_iff_exists'.mp (hx.vector hv)
            obtain ⟨m, -, -, hc⟩ := hx.msgh a ha
            rw [if_pos hv] at hc
            obtain ⟨i, n, hc⟩ := hc
            obtain ⟨s, y, hs, hy⟩ := hlisted _ (prvLookup_mem hl)
            have hs₁ : w₁.heap t = some (.tsnSocket s) := by
              rw [hheap]
              exact hs
            have hy₁ : w₁.baseSockets s.xBaseSocket = some y := by
              rw [hfs.eq]
              exact hy
            have hc₁ : Carries w₁ a b m i n := by
              rw [hfs.eq]
              exact ⟨hc.msghdr, hc.msgFlags, hc.msgIov, hc.msgIovlen, hc.iovec⟩
            have hp₁ : (w₁.bufs b).pucEthernetBuffer = .eth b 0 := hfs.pucEthernetBuffer.trans hx.pucEthernetBuffer
            rw [prvDispatchFrame_tsn hl₁ hs₁, prvReceiveUDPPacketTSN_carries rfl ha hc₁ hp₁, run_prvWaitForUser hy₁]
            exact ⟨_, rfl, hleaves.waitingAfter a hy₁⟩
  · refine ⟨w, prvDeliverFrame_ignored rfl hx.pucEthernetBuffer hd xUsingIPTask, ?_⟩
    exact (refl_of (FrameStep b) w).leaves hw htb _

/-- An item without a message, or with one without a vector, stops the controller at a TSN socket. -/
theorem prvDeliverFrame_stopped (cfg : Config) (hlisted : ListedOk w) (hx : FlightOk w b x) (hfor : ForTsnSocket w b)
    (hv : x.bVector = false) (xUsingIPTask : Bool) :
    ∃ e w', (prvDeliverFrame cfg (rxItem b x.pxMsgh) xUsingIPTask).run w = .error e w' := by
  obtain ⟨hd, hi, hl⟩ := hfor
  have hb : (rxItem b x.pxMsgh).pxBuf = some b := rfl
  obtain ⟨w₁, hfs, -, ⟨ip, hip⟩, hrun⟩ := run_prvDeliverFrame cfg hb hd xUsingIPTask
  obtain ⟨ucProto, hi⟩ := Option.ne_none_iff_exists'.mp hi
  obtain ⟨t, hl⟩ := Option.ne_none_iff_exists'.mp hl
  have hl₁ : prvLookup (w₁.bufs b).usBoundPort w₁.xTSNBoundUDPSocketList = some t := by
    rw [hip, hfs.eq]
    exact hl
  have hheap : w₁.heap = w.heap := by rw [hfs.eq]
  obtain ⟨s, y, hs, -⟩ := hlisted _ (prvLookup_mem hl)
  have hs₁ : w₁.heap t = some (.tsnSocket s) := by
    rw [hheap]
    exact hs
  rw [hrun, hi]
  dsimp only
  rw [prvDispatchFrame_tsn hl₁ hs₁]
  cases ha : x.pxMsgh with
  | none => exact ⟨_, _, prvReceiveUDPPacketTSN_null rfl⟩
  | some a =>
      obtain ⟨m, hm, hf, hc⟩ := hx.msgh a ha
      rw [if_neg (by simp [hv])] at hc
      have hm₁ : w₁.heap a = some (.msghdr m) := by
        rw [hheap]
        exact hm
      exact ⟨_, _, prvReceiveUDPPacketTSN_noVector rfl hm₁ hf hc⟩

end FreeRtosTsn.Packet
