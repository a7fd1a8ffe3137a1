import FreeRtosTsn.Packet.Lemmas.Deliver

/-!
# Frames for the IP task

A frame that is not UDP, from its reception to the IP task.
-/

namespace FreeRtosTsn.Packet

open Lib Kernel

variable {cfg : Config} {w : World} {b : BufId}

namespace NonUDPFrame

theorem untagged (h : NonUDPFrame w b) : uxTagsOfType (swap16 ((w.mem b).load16 ethFrameType)) = 0 := by
  rw [uxTagsOfType, if_neg h.notDoubleTag, if_neg h.notDefault]

theorem inspected_eq (h : NonUDPFrame w b) : ∃ ucProto, inspected w b = some ucProto ∧ ucProto ≠ ipProtocolUdp := by
  by_cases h4 : (w.mem b).load16 ethFrameType = ipIPv4FrameType
  · exact ⟨_, by rw [inspected, if_pos h4, if_neg (Nat.not_lt.mpr (h.ipv4 h4))], h.notUDP⟩
  · exact ⟨0, by rw [inspected, if_neg h4], by decide⟩

theorem congr {w' : World} (h : NonUDPFrame w b) (hm : w'.mem b = w.mem b)
    (hp : (w'.bufs b).pucEthernetBuffer = (w.bufs b).pucEthernetBuffer)
    (hi : (w'.bufs b).pxInterface = (w.bufs b).pxInterface) (he : (w'.bufs b).pxEndPoint = (w.bufs b).pxEndPoint)
    (hl : (w'.bufs b).xDataLength = (w.bufs b).xDataLength) : NonUDPFrame w' b where
  pucEthernetBuffer := hp.trans h.pucEthernetBuffer
  pxInterface := hi ▸ h.pxInterface
  pxEndPoint := he ▸ h.pxEndPoint
  xDataLength := hl ▸ h.xDataLength
  ipv4 := by rw [hm, hl]; exact h.ipv4
  notDefault := by rw [hm]; exact h.notDefault
  notDoubleTag := by rw [hm]; exact h.notDoubleTag
  notUDP := by rw [hm]; exact h.notUDP

theorem deliverable (h : NonUDPFrame w b) : Deliverable w b :=
  ⟨h.pucEthernetBuffer, h.pxInterface, h.pxEndPoint, h.xDataLength⟩

end NonUDPFrame

/-! ## Reception -/

/-- What the reception leaves: the item, its message if it has one, and the frame with its ports. -/
structure Received (w w₁ : World) (b : BufId) (pxMsgh : Option Addr) : Prop where
  heapOk : HeapOk w₁
  frame : NonUDPFrame w₁ b
  usBoundPort : (w₁.bufs b).usBoundPort = (portsOf (w.mem b)).1
  msgh : ∀ a, pxMsgh = some a → ∃ m, w₁.heap a = some (.msghdr m)

theorem FrameStep.heapOk {w w₁ : World} (h : FrameStep b w w₁) (hw : HeapOk w) : HeapOk w₁ := by
  rw [h.eq]
  exact ⟨hw.toMsgHeap, hw.fresh, hw.freed, hw.freedOnce⟩

theorem prvHandleReceive_wanted (hw : HeapOk w) (htb : TimebaseOk w) (hf : NonUDPFrame w b)
    (hsock : SocketsOk w)
    (hmem : ∀ n, w.env.pvPortMalloc n = true) (hport : Wanted w (portsOf (w.mem b)).1) :
    ∃ pxMsgh w₁, (prvHandleReceive b).run w = .ok (some (rxItem b pxMsgh)) w₁ ∧ Received w w₁ b pxMsgh := by
  obtain ⟨w₁, hparse, hfs, hm₁, hb₁⟩ := run_prvParseFrame_untagged hf.pucEthernetBuffer hf.xDataLength hf.untagged
  have hok : HeapOk w₁ := hfs.heapOk hw
  have henv : w₁.env = w.env := by rw [hfs.eq]
  have htsn : w₁.xTSNBoundUDPSocketList = w.xTSNBoundUDPSocketList := by rw [hfs.eq]
  have hudp : w₁.xBoundUDPSocketsList = w.xBoundUDPSocketsList := by rw [hfs.eq]
  have hheap : w₁.heap = w.heap := by rw [hfs.eq]
  have htb₁ : TimebaseOk w₁ := by rw [hfs.eq]; exact htb
  have hext : ∀ {w'}, Extends w₁ w' → NonUDPFrame w' b ∧ (w'.bufs b).usBoundPort = (portsOf (w.mem b)).1 := by
    intro w' he
    have hb' : w'.bufs b = w₁.bufs b := by rw [he.step.bufs]
    have hm' : w'.mem b = w.mem b := by rw [he.step.mem, hm₁]
    refine ⟨hf.congr hm' ?_ ?_ ?_ ?_, ?_⟩ <;> rw [hb', hb₁]
  have hall : ∀ n, w₁.env.pvPortMalloc n = true := by rw [henv]; exact hmem
  by_cases h0 : (portsOf (w.mem b)).1 = 0
  · obtain ⟨w', hrun, he⟩ := prvHandleReceive_plain hok hparse (.inl h0)
    rw [if_pos (hall _)] at hrun
    exact ⟨none, w', hrun, he.heapOk, (hext he).1, (hext he).2, fun a h => nomatch h⟩
  · cases hl : prvLookup (portsOf (w.mem b)).1 w.xTSNBoundUDPSocketList with
    | none =>
        have hplain : prvLookup (portsOf (w.mem b)).1 w.xBoundUDPSocketsList ≠ none :=
          (hport.resolve_left h0).resolve_left fun h => h hl
        obtain ⟨w', hrun, he⟩ := prvHandleReceive_plain hok hparse (.inr ⟨by rw [htsn]; exact hl, by rw [hudp]; exact hplain⟩)
        rw [if_pos (hall _)] at hrun
        exact ⟨none, w', hrun, he.heapOk, (hext he).1, (hext he).2, fun a h => nomatch h⟩
    | some t =>
        obtain ⟨s, hs⟩ := hsock _ (prvLookup_mem hl)
        have hp₁ : (w₁.bufs b).pucEthernetBuffer = .eth b 0 := by rw [hb₁]; exact hf.pucEthernetBuffer
        obtain ⟨w', n, m, hrun, he, hm, -⟩ := prvHandleReceive_tsn hok htb₁ hparse h0 (by rw [htsn]; exact hl)
          (by rw [hheap]; exact hs) hp₁ (hall _)
        rw [if_pos (hall _)] at hrun
        refine ⟨some w₁.calls, w', hrun, he.heapOk, (hext he).1, (hext he).2, ?_⟩
        intro a ha
        cases ha
        exact ⟨m, hm⟩

theorem prvHandleReceive_unwanted (hf : NonUDPFrame w b) (hport : ¬Wanted w (portsOf (w.mem b)).1) :
    ∃ w₁, (prvHandleReceive b).run w = .ok none w₁ := by
  obtain ⟨w₁, hparse, hfs, -, -⟩ := run_prvParseFrame_untagged hf.pucEthernetBuffer hf.xDataLength hf.untagged
  have htsn : w₁.xTSNBoundUDPSocketList = w.xTSNBoundUDPSocketList := by rw [hfs.eq]
  have hudp : w₁.xBoundUDPSocketsList = w.xBoundUDPSocketsList := by rw [hfs.eq]
  simp only [Wanted, not_or, ne_eq, not_not] at hport
  exact ⟨w₁, prvHandleReceive_unbound hparse hport.1 (by rw [htsn]; exact hport.2.1) (by rw [hudp]; exact hport.2.2)⟩

/-! ## Delivery -/

theorem prvDeliverFrame_forwarded {xItem : NetworkQueueItem} {xUsingIPTask : Bool} (hb : xItem.pxBuf = some b)
    (hf : NonUDPFrame w b) (hheap : MsgHeap w.heap)
    (hmsgh : ∀ a, xItem.pxMsgh = some a → ∃ m, w.heap a = some (.msghdr m))
    (hl : prvLookup (w.bufs b).usBoundPort w.xTSNBoundUDPSocketList = none)
    (hroom : ∀ n, w.env.xSendEventStructToIPTask n = true) :
    ∃ w', (prvDeliverFrame cfg xItem xUsingIPTask).run w = .ok () w' ∧ Forwarded b w w' := by
  obtain ⟨w₁, hfs, -, ⟨x, hx⟩, hrun⟩ := run_prvDeliverFrame cfg hb hf.deliverable xUsingIPTask
  obtain ⟨ucProto, hi, hproto⟩ := hf.inspected_eq
  simp only [hi] at hrun
  have hport : (w₁.bufs b).usBoundPort = (w.bufs b).usBoundPort := by rw [hx]
  have htsn : w₁.xTSNBoundUDPSocketList = w.xTSNBoundUDPSocketList := by rw [hfs.eq]
  have hheap₁ : w₁.heap = w.heap := by rw [hfs.eq]
  have hl₁ : prvLookup (w₁.bufs b).usBoundPort w₁.xTSNBoundUDPSocketList = none := by rw [hport, htsn]; exact hl
  -- Both ways to the IP task only touch the heap before it.
  have hgo : ∀ {w₂}, HeapStep w₁ w₂ → ∃ w', (prvToIPTask b).run w₂ = .ok () w' ∧ Forwarded b w w' := by
    intro w₂ hs
    have henv : w₂.env = w.env := by rw [hs.eq, hfs.eq]
    refine ⟨_, run_prvToIPTask, ?_⟩
    rw [if_pos (by rw [henv]; exact hroom _)]
    constructor
    · rw [World.toIPTask_ipTaskEvents, World.tick_ipTaskEvents, hs.eq, hfs.eq]
    · rw [World.toIPTask_released, World.tick_released, hs.eq, hfs.eq]
    · rw [World.toIPTask_baseSockets, World.tick_baseSockets, hs.eq, hfs.eq]
  cases hk : prvLookup (w₁.bufs b).usBoundPort w₁.xBoundUDPSocketsList with
  | none =>
      rw [hrun, prvDispatchFrame_none hl₁ hk]
      exact hgo (refl_of HeapStep w₁)
  | some k =>
      obtain ⟨w₂, hs, hplain⟩ := run_prvDeliverToPlainSocket (w := w₁) b xUsingIPTask
        (by rw [hheap₁]; exact hheap) (by rw [hheap₁]; exact hmsgh) hproto
      rw [hrun, prvDispatchFrame_plain hl₁ hk, hplain]
      exact hgo hs

/-- A TSN socket gets the frame, or nobody does. -/
theorem prvDeliverFrame_not_forwarded {xItem : NetworkQueueItem} {xUsingIPTask : Bool} {t : Addr} {w' : World}
    (hb : xItem.pxBuf = some b) (hf : NonUDPFrame w b)
    (hl : prvLookup (w.bufs b).usBoundPort w.xTSNBoundUDPSocketList = some t)
    (hrun : (prvDeliverFrame cfg xItem xUsingIPTask).run w = .ok () w') : ¬Forwarded b w w' := by
  intro h
  obtain ⟨w₁, hfs, -, ⟨x, hx⟩, hrun₁⟩ := run_prvDeliverFrame cfg hb hf.deliverable xUsingIPTask
  obtain ⟨ucProto, hi, -⟩ := hf.inspected_eq
  simp only [hi] at hrun₁
  have hl₁ : prvLookup (w₁.bufs b).usBoundPort w₁.xTSNBoundUDPSocketList = some t := by
    rw [hx, hfs.eq]
    exact hl
  have hsame := prvDispatchFrame_ipTaskEvents cfg xItem ucProto xUsingIPTask hl₁
  rw [← hrun₁, hrun, lastState_ok, h.ipTaskEvents, hfs.eq] at hsame
  simp at hsame

end FreeRtosTsn.Packet
