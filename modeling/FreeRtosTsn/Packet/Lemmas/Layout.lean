import FreeRtosTsn.Packet.Lemmas.Send

/-!
# The frame that a send queues

The bytes of the buffer are those of the frame, as the reference parser reads it.
-/

namespace FreeRtosTsn.Packet

open Lib Kernel Scheduler

variable {cfg : Config} {w : World} {s : TSNSocket} {x : BaseSocket} {p : List UInt8} {dest : Destination}

/-- A number in network byte order. -/
theorem bytes16_eq_numberBytes (y : UInt16) : bytes16 y = Ethernet.numberBytes (swap16 y).toNat := by
  have hy := y.toNat_lt
  rw [bytes16, Ethernet.numberBytes, swap16_toNat]
  generalize y.toNat = n at hy ⊢
  have hdiv : (n % 256 * 256 + n / 256) / 256 = n % 256 := by omega
  have hmod : (n % 256 * 256 + n / 256) % 256 = n / 256 := by omega
  have hlow : UInt8.ofNat n = UInt8.ofNat (n % 256) := (UInt8.ofNat_mod_size ..).symm
  have hhigh : UInt8.ofNat (n % 256 * 256 + n / 256) = UInt8.ofNat ((n % 256 * 256 + n / 256) % 256) :=
    (UInt8.ofNat_mod_size ..).symm
  rw [hhigh, hmod, hdiv, ← hlow]

theorem bytes16_swap16_ofNat {n : Nat} (h : n < 2 ^ 16) : bytes16 (swap16 (UInt16.ofNat n)) = Ethernet.numberBytes n := by
  rw [bytes16_eq_numberBytes, swap16_swap16, UInt16.toNat_ofNat', Nat.mod_eq_of_lt h]

/-- The tags and the frame type as the parser knows them. -/
theorem prvTypeField_eq {bs : List UInt8} (h : prvTypeField cfg s = some bs) :
    bs = (socketTags cfg s).flatMap Ethernet.Tag.bytes ++ [0x08, 0x00] ∧
      socketTagSize cfg s = 4 * (socketTags cfg s).length := by
  cases hi : cfg.tsnconfigSocketInsertsVlanTags with
  | false =>
      simp only [prvTypeField, hi, Bool.false_eq_true, if_false, Option.some.injEq] at h
      subst h
      simp only [socketTags, socketTagSize, hi, Bool.false_eq_true, if_false]
      exact ⟨by decide, rfl⟩
  | true =>
      simp only [prvTypeField, hi, if_true] at h
      simp only [socketTags, socketTagSize, hi, if_true]
      rcases hcount : s.ucVLANTagsCount with _ | _ | _ | k <;> rw [hcount] at h <;> cases h
      · exact ⟨rfl, rfl⟩
      · refine ⟨?_, rfl⟩
        simp only [List.flatMap_cons, List.flatMap_nil, Ethernet.Tag.bytes, bytes16_eq_numberBytes, swap16_swap16]
        rfl
      · refine ⟨?_, rfl⟩
        simp only [List.flatMap_cons, List.flatMap_nil, Ethernet.Tag.bytes, bytes16_eq_numberBytes, swap16_swap16]
        rfl

theorem diffserv_byte (d : UInt8) : diffservSetDsClassIPv4 d = UInt8.ofNat (4 * d.toNat + 0) := by
  apply UInt8.toNat.inj
  simp [diffservSetDsClassIPv4, UInt8.toNat_shiftLeft, Nat.shiftLeft_eq]
  omega

theorem socketTags_valid : ∀ t ∈ socketTags cfg s, t.Valid := by
  have hc := s.usVLANCTagTCI.toNat_lt
  have hs := s.usVLANSTagTCI.toNat_lt
  rw [socketTags]
  split
  · split
    · simp only [List.mem_singleton, forall_eq]
      exact ⟨rfl, hc⟩
    · simp only [List.mem_cons, List.not_mem_nil, or_false, forall_eq_or_imp, forall_eq]
      exact ⟨⟨rfl, hs⟩, rfl, hc⟩
    · simp
  · simp

theorem sentDatagram_valid {ep : EndPoint} {xMac : MACAddress} (hds : s.ucDSClass.toNat < 64)
    (hp : p.length + 28 < 2 ^ 16) : (sentDatagram cfg s x dest ep xMac p).Valid where
  destinationMac := by simp [sentDatagram]
  sourceMac := by simp [sentDatagram]
  tags := socketTags_valid
  dscp := hds
  ecn := by simp [sentDatagram]
  totalLength := rfl
  small := hp
  identification := by simp [sentDatagram]
  fragment := by simp [sentDatagram]
  headerChecksum := by simp [sentDatagram]
  sourceAddress := rfl
  destinationAddress := rfl
  sourcePort := x.usLocalPort.toNat_lt
  destinationPort := (swap16 dest.sinPort).toNat_lt
  udpLength := rfl
  udpChecksum := by simp [sentDatagram]

theorem SentFrame.read_eq {xMac : MACAddress} {e : EndPointId} {bs : List UInt8}
    (h : SentFrame cfg s x dest p w xMac e bs) (hp : p.length + 28 < 2 ^ 16) :
    ((payloadWorld cfg s x dest p w).mem w.calls).read 0 ((payloadWorld cfg s x dest p w).bufs w.calls).xDataLength =
      (sentDatagram cfg s x dest (w.endPoints e) xMac p).bytes ++
        List.replicate (cfg.ipconfigEthernetMinimumPacketBytes - (p.length + (42 + socketTagSize cfg s))) 0 := by
  obtain ⟨hbs, -⟩ := prvTypeField_eq h.types
  rw [h.mem, h.xDataLength, sentFields_read _ _ _ _ _ _ (prvTypeField_length h.types)]
  simp only [prvIpBytes, sendBuf, bytes16_swap16_ofNat hp, bytes16_swap16_ofNat (show p.length + 8 < 2 ^ 16 by omega),
    diffserv_byte, Ethernet.Frame.bytes, Ethernet.Frame.networkBytes, sentDatagram]
  rw [hbs, bytes16_eq_numberBytes dest.sinPort, bytes16_eq_numberBytes (swap16 x.usLocalPort), swap16_swap16]
  have hzero : bytes16 0 = Ethernet.numberBytes 0 := by decide
  simp only [hzero, List.append_assoc, List.cons_append, List.nil_append]
  rfl

theorem SentFrame.payload {xMac : MACAddress} {e : EndPointId} {bs : List UInt8}
    (h : SentFrame cfg s x dest p w xMac e bs) :
    ((payloadWorld cfg s x dest p w).mem w.calls).read (42 + socketTagSize cfg s) p.length = p := by
  rw [h.mem]
  exact Mem.writeAll_read (sentFields_separate _ _ _ _ _ _ (prvTypeField_length h.types))
    (f := (42 + socketTagSize cfg s, p)) (by simp [sentFields]) _

end FreeRtosTsn.Packet
