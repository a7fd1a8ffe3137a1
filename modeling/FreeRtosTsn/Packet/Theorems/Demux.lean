import FreeRtosTsn.Packet.Lemmas.Demux
import FreeRtosTsn.Packet.Theorems

/-!
# Which socket a datagram is for
-/

namespace FreeRtosTsn.Packet

open Lib Kernel

variable {cfg : Config} {w : World} {b : BufId}

/-- The ports in the descriptor are those of the header. -/
theorem Demultiplexed.portsInPlace (h : Demultiplexed cfg b w) (hf : UdpFrame w b) : PortsInPlace (w.mem b) := by
  obtain ⟨w₁, hparse, -, -, hbuf⟩ := hf.run_prvParseFrame
  obtain ⟨hbufs, -⟩ := lastState_prvHandleReceive hparse
  have hdst := h.usBoundPort
  have hsrc := h.usPort
  rw [hbufs, hbuf] at hdst hsrc
  exact hf.portsOf_eq_udpPorts_iff.mp (Prod.ext hdst hsrc)

/-- **Datagrams** reach the socket that is bound to their port exactly when the ports are behind 20 bytes of IPv4. -/
theorem demultiplexed_iff (h : UdpFrame w b) : Demultiplexed cfg b w ↔ PortsInPlace (w.mem b) := by
  constructor
  · exact fun hdemux => hdemux.portsInPlace h
  · intro hplace
    have hports := h.portsOf_eq_udpPorts_iff.mpr hplace
    obtain ⟨w₁, hparse, hframe, -, hbuf⟩ := h.run_prvParseFrame
    obtain ⟨hbufs, -⟩ := lastState_prvHandleReceive hparse
    rw [hports] at hbuf
    refine ⟨by rw [hbufs, hbuf], by rw [hbufs, hbuf], ?_, ?_⟩
    · intro h0
      refine ⟨parsedOf (w.mem b), w₁, hframe, ?_⟩
      have hport : (parsedOf (w.mem b)).usDestinationPort = (udpPorts (w.mem b)).1 := by rw [parsedOf, hports]
      rw [prvHandleReceive_eq, run_bind_ok hparse, prvItemFor, prvMsghFor_eq b _ (by rw [hport]; exact h0), hport,
        bind_assoc]
      rfl
    · intro xItem w₂ xUsingIPTask hb hw₂ hm₂
      rw [hbufs, hbuf] at hw₂
      have hlen := h.xDataLength_ge
      have hd : Deliverable w₂ b := by
        refine ⟨?_, ?_, ?_, ?_⟩
        · rw [hw₂]
          exact h.pucEthernetBuffer
        · rw [hw₂]
          exact h.pxInterface
        · rw [hw₂]
          exact h.pxEndPoint
        · rw [hw₂]
          simp only [ipSizeOfEthHeader]
          omega
      have hlen₂ : sizeOfIPPacket ≤ (w₂.bufs b).xDataLength := by
        rw [hw₂]
        simp only [sizeOfIPPacket, ipSizeOfEthHeader, ipSizeOfIPv4Header]
        omega
      have hrun := run_prvDeliverFrame_stored cfg hb hd hlen₂ xUsingIPTask
      rwa [hw₂] at hrun

/-- Eight bytes of UDP from port 5001 to port 80, with no options. -/
def plainHeader : World :=
  rxWorld [(12, 8), (14, 0x45), (17, 28), (23, 17), (34, 0x13), (35, 0x89), (37, 80), (39, 8)]

theorem plainHeader_udpFrame : UdpFrame plainHeader 0 := by
  refine ⟨rfl, by simp [plainHeader, rxWorld], by simp [plainHeader, rxWorld], Or.inl ?_⟩
  exact ⟨by decide, by decide, by decide, by decide, by decide, by decide, by decide⟩

theorem demultiplexed_plain : Demultiplexed {} 0 plainHeader :=
  (demultiplexed_iff plainHeader_udpFrame).mpr (Or.inr (Or.inl (by decide)))

/-- The same datagram behind four bytes of options. -/
def optionsHeader : World :=
  rxWorld [(12, 8), (14, 0x46), (17, 32), (23, 17), (34, 1), (35, 1), (36, 1), (37, 1), (38, 0x13), (39, 0x89), (41, 80),
    (43, 8)]

/-- It is taken to be for port 257. -/
theorem options_misread : UdpFrame optionsHeader 0 ∧ ¬Demultiplexed {} 0 optionsHeader := by
  have hframe : UdpFrame optionsHeader 0 := by
    refine ⟨rfl, by simp [optionsHeader, rxWorld], by simp [optionsHeader, rxWorld], Or.inl ?_⟩
    exact ⟨by decide, by decide, by decide, by decide, by decide, by decide, by decide⟩
  refine ⟨hframe, fun hdemux => ?_⟩
  rcases hdemux.portsInPlace hframe with h6 | hihl | ⟨hsrc, -⟩
  · exact absurd h6 (by decide)
  · exact absurd hihl (by decide)
  · exact absurd hsrc (by decide)

end FreeRtosTsn.Packet
