import FreeRtosTsn.Packet.Demux
import FreeRtosTsn.Packet.Lemmas.Bounds
import FreeRtosTsn.Packet.Lemmas.Deliver

/-!
# Demultiplexing by the ports that are stored

The sockets are looked up by the port in the descriptor, both times.
-/

namespace FreeRtosTsn.Packet

open Lib Kernel

variable {cfg : Config} {w w₁ : World} {b : BufId}

/-! ## The lookups -/

theorem prvMsghFor_eq (b : BufId) (f : ParsedFrame) (h : f.usDestinationPort ≠ 0) :
    prvMsghFor b f = vSocketFromPort f.usDestinationPort >>= prvMsghForSockets b f := by
  rw [prvMsghFor, if_neg h]
  congr 1

theorem prvDispatchFrame_eq (cfg : Config) (xItem : NetworkQueueItem) (b : BufId) (ucProto : UInt8) (xUsingIPTask : Bool)
    (w : World) : (prvDispatchFrame cfg xItem b ucProto xUsingIPTask).run w =
      (vSocketFromPort (w.bufs b).usBoundPort >>= prvDispatchTo cfg xItem b ucProto xUsingIPTask).run w := by
  rw [prvDispatchFrame, run_bind_ok (run_loadBuf _ _), EStateM.run_bind, EStateM.run_bind]
  cases (vSocketFromPort (w.bufs b).usBoundPort).run w with
  | error e w' => rfl
  | ok r w' => rcases r with ⟨_ | x, _ | t⟩ <;> rfl

/-! ## The frame -/

namespace UdpFrame

variable (h : UdpFrame w b)
include h

theorem ipv4_or_ipv6 :
    (w.mem b).load16 ethFrameType = ipIPv4FrameType ∨ (w.mem b).load16 ethFrameType = ipIPv6FrameType :=
  h.datagram.imp UdpOverIPv4.usFrameType UdpOverIPv6.usFrameType

theorem xDataLength_ge : 42 ≤ (w.bufs b).xDataLength := by
  rcases h.datagram with h4 | h6
  · have hihl := h4.ihl_ge
    have htotal := h4.totalLength
    have hudp := h4.udpLength
    simp only [ipSizeOfEthHeader] at htotal hudp
    omega
  · have hpayload := h6.payloadLength
    have hudp := h6.udpLength
    simp only [ipSizeOfEthHeader] at hpayload hudp
    omega

theorem untagged : uxTagsOfType (swap16 ((w.mem b).load16 ethFrameType)) = 0 := by
  rcases h.ipv4_or_ipv6 with hty | hty <;> rw [hty] <;> decide

theorem protocolOf_eq : protocolOf (w.mem b) = ipProtocolUdp := by
  rcases h.datagram with h4 | h6
  · rw [protocolOf, if_pos h4.usFrameType, h4.protocol]
  · rw [protocolOf, if_neg (by rw [h6.usFrameType]; decide), if_pos h6.usFrameType, h6.nextHeader]

/-- The code takes the ports from behind a header without options. -/
theorem portsOf_eq : portsOf (w.mem b) =
    ((w.mem b).load16 (uxPrefixOf (w.mem b) + 2), (w.mem b).load16 (uxPrefixOf (w.mem b))) := by
  have hports : hasPorts (w.mem b) = true := by
    rw [hasPorts, h.protocolOf_eq]
    decide
  rw [portsOf, if_pos hports]

/-- The ports that the code finds are those of the UDP header. -/
theorem portsOf_eq_udpPorts_iff : portsOf (w.mem b) = udpPorts (w.mem b) ↔ PortsInPlace (w.mem b) := by
  rw [h.portsOf_eq, udpPorts, PortsInPlace, Prod.mk.injEq]
  rcases h.datagram with h4 | h6
  · have hstart : uxPrefixOf (w.mem b) = ipSizeOfEthHeader + 20 := if_pos h4.usFrameType
    have hplace : udpPlace (w.mem b) = ipSizeOfEthHeader + 4 * ihl (w.mem b) := if_pos h4.usFrameType
    have hnot : (w.mem b).load16 ethFrameType ≠ ipIPv6FrameType := by
      rw [h4.usFrameType]
      decide
    rw [hstart, hplace]
    constructor
    · rintro ⟨hdst, hsrc⟩
      exact Or.inr (Or.inr ⟨hsrc, hdst⟩)
    · rintro (hv6 | hihl | ⟨hsrc, hdst⟩)
      · exact absurd hv6 hnot
      · rw [hihl]
        exact ⟨rfl, rfl⟩
      · exact ⟨hdst, hsrc⟩
  · have hnot : (w.mem b).load16 ethFrameType ≠ ipIPv4FrameType := by
      rw [h6.usFrameType]
      decide
    have hstart : uxPrefixOf (w.mem b) = ipSizeOfEthHeader + 40 := by
      rw [uxPrefixOf, if_neg hnot, if_pos h6.usFrameType]
      rfl
    have hplace : udpPlace (w.mem b) = ipSizeOfEthHeader + 40 := if_neg hnot
    rw [hstart, hplace]
    exact ⟨fun _ => Or.inl h6.usFrameType, fun _ => ⟨rfl, rfl⟩⟩

/-- The frame after its ports were stored. -/
theorem run_prvParseFrame : ∃ w₁, (prvParseFrame b).run w = .ok (parsedOf (w.mem b)) w₁ ∧ FrameStep b w w₁ ∧
    w₁.mem = w.mem ∧
    w₁.bufs b = { w.bufs b with usBoundPort := (portsOf (w.mem b)).1, usPort := (portsOf (w.mem b)).2 } := by
  have hlen := h.xDataLength_ge
  exact run_prvParseFrame_untagged h.pucEthernetBuffer (by simp only [ipSizeOfEthHeader]; omega) h.untagged

end UdpFrame

/-- What follows the parser leaves the descriptor and the frame alone. -/
theorem lastState_prvHandleReceive {f : ParsedFrame} (hparse : (prvParseFrame b).run w = .ok f w₁) :
    (lastState ((prvHandleReceive b).run w)).bufs = w₁.bufs ∧ (lastState ((prvHandleReceive b).run w)).mem = w₁.mem := by
  rw [prvHandleReceive_eq, run_bind_ok hparse]
  have hitem := prvItemFor_heapStep b f w₁
  exact ⟨hitem.bufs, hitem.mem⟩

/-- The frame of a later time is delivered by the port that is stored in its descriptor. -/
theorem run_prvDeliverFrame_stored (cfg : Config) {xItem : NetworkQueueItem} (hb : xItem.pxBuf = some b)
    (hd : Deliverable w b) (hlen : sizeOfIPPacket ≤ (w.bufs b).xDataLength) (xUsingIPTask : Bool) :
    ∃ ucProto w₃, FrameStep b w w₃ ∧ (prvDeliverFrame cfg xItem xUsingIPTask).run w =
      (vSocketFromPort (w.bufs b).usBoundPort >>= prvDispatchTo cfg xItem b ucProto xUsingIPTask).run w₃ := by
  obtain ⟨w₃, hf, -, ⟨x, hx⟩, hrun⟩ := run_prvDeliverFrame cfg hb hd xUsingIPTask
  have hport : (w₃.bufs b).usBoundPort = (w.bufs b).usBoundPort := by rw [hx]
  have hin : ∃ ucProto, inspected w b = some ucProto := by
    rw [inspected, if_neg (Nat.not_lt.mpr hlen)]
    split
    · exact ⟨_, rfl⟩
    · exact ⟨_, rfl⟩
  obtain ⟨ucProto, hproto⟩ := hin
  refine ⟨ucProto, w₃, hf, ?_⟩
  rw [hrun, hproto, ← hport]
  exact prvDispatchFrame_eq cfg xItem b ucProto xUsingIPTask w₃

end FreeRtosTsn.Packet
