import FreeRtosTsn.Packet.Sockets

/-!
# What a send writes

The fields that `prvPrepareBufferUDPv4` writes for any number of tags, and the state it leaves.
-/

namespace FreeRtosTsn.Packet

open Lib Kernel Scheduler

/-! ## Writing a header -/

/-- The fields of a header, written one after the other. -/
def writeFields (p : Ptr) : List (Nat × List UInt8) → M Unit
  | [] => return ()
  | f :: fs => do
      writeBytes p f.1 f.2
      writeFields p fs

theorem writeFields_singleton (p : Ptr) (f : Nat × List UInt8) : writeFields p [f] = writeBytes p f.1 f.2 := by
  simp [writeFields]

/-- The fields that end beyond the end of a buffer. -/
def overrunsOf (cap : Nat) (b : BufId) (fs : List (Nat × List UInt8)) : List (BufId × Nat × Nat) :=
  (fs.filter fun f => cap < f.1 + f.2.length).map fun f => (b, f.1, f.2.length)

/-- The state after the fields are written to the Ethernet buffer of `b`. -/
@[simps -fullyApplied] def wrote (w : World) (b : BufId) (fs : List (Nat × List UInt8)) : World :=
  { w with
    mem := Function.update w.mem b ((w.mem b).writeAll fs)
    overruns := w.overruns ++ overrunsOf (w.cap b) b fs }

theorem accessed_setMem_eq_wrote (w : World) (b : BufId) (f : Nat × List UInt8) :
    (w.accessed b (0 + f.1) f.2.length).setMem b ((w.mem b).write (0 + f.1) f.2) = wrote w b [f] := by
  rw [Nat.zero_add]
  by_cases hfit : f.1 + f.2.length ≤ w.cap b
  · simp [wrote, World.setMem, World.accessed, overrunsOf, hfit, Nat.not_lt.mpr hfit, Mem.writeAll]
  · simp [wrote, World.setMem, World.accessed, overrunsOf, hfit, Nat.not_le.mp hfit, Mem.writeAll]

theorem wrote_wrote (w : World) (b : BufId) (fs gs : List (Nat × List UInt8)) :
    wrote (wrote w b fs) b gs = wrote w b (fs ++ gs) := by
  simp only [wrote, overrunsOf, Mem.writeAll, Function.update_self, Function.update_idem, List.foldl_append,
    List.filter_append, List.map_append, List.append_assoc]
  rfl

theorem wrote_setBuf (w : World) (b c : BufId) (d : NetworkBufferDescriptor) (fs : List (Nat × List UInt8)) :
    (wrote w b fs).setBuf c d = wrote (w.setBuf c d) b fs := rfl

theorem setBuf_self (w : World) (b : BufId) : w.setBuf b (w.bufs b) = w := by simp [World.setBuf]

theorem setBuf_setBuf (w : World) (b : BufId) (d d' : NetworkBufferDescriptor) :
    (w.setBuf b d).setBuf b d' = w.setBuf b d' := by simp [World.setBuf]

theorem wrote_nil (w : World) (b : BufId) : wrote w b [] = w := by simp [wrote, overrunsOf, Mem.writeAll]

theorem run_writeFields (b : BufId) (fs : List (Nat × List UInt8)) (w : World) :
    (writeFields (.eth b 0) fs).run w = .ok () (wrote w b fs) := by
  induction fs generalizing w with
  | nil => rw [wrote_nil]; rfl
  | cons f fs ih =>
      rw [writeFields, run_bind_ok (run_writeBytes _ _ _ _ _), ih, accessed_setMem_eq_wrote, wrote_wrote]
      rfl

/-! ## The headers -/

/-- The tags and the frame type, which are behind the addresses. -/
def prvTypeField (cfg : Config) (s : TSNSocket) : Option (List UInt8) :=
  if cfg.tsnconfigSocketInsertsVlanTags then
    match s.ucVLANTagsCount with
    | 0 => some (bytes16 ipIPv4FrameType)
    | 1 => some (bytes16 (swap16 vlantagTpidDefault) ++ bytes16 (swap16 s.usVLANCTagTCI) ++ bytes16 ipIPv4FrameType)
    | 2 => some (bytes16 (swap16 vlantagTpidDoubleTag) ++ bytes16 (swap16 s.usVLANSTagTCI) ++
        bytes16 (swap16 vlantagTpidDefault) ++ bytes16 (swap16 s.usVLANCTagTCI) ++ bytes16 ipIPv4FrameType)
    | _ => none
  else
    some (bytes16 ipIPv4FrameType)

/-- The headers of the network and the transport layer from the offset `ip` on, in the order of the code. -/
def prvIpFields (cfg : Config) (s : TSNSocket) (d : NetworkBufferDescriptor) (ep : EndPoint) (ip n : Nat) :
    List (Nat × List UInt8) :=
  [(ip, [0x45]), (ip + 1, [diffservSetDsClassIPv4 s.ucDSClass]), (ip + 2, bytes16 (swap16 (UInt16.ofNat (n + 28)))),
    (ip + 4, bytes16 0), (ip + 6, bytes16 0), (ip + 8, [cfg.ipconfigUdpTimeToLive]), (ip + 9, [ipProtocolUdp]),
    (ip + 12, bytes32 ep.ulIPAddress), (ip + 16, bytes32 d.xIPAddress.ulIPv4), (ip + 20 + 2, bytes16 d.usPort),
    (ip + 20, bytes16 d.usBoundPort), (ip + 20 + 4, bytes16 (swap16 (UInt16.ofNat (n + 8)))), (ip + 10, bytes16 0),
    (ip + 20 + 6, bytes16 0)]

/-- The padding of a frame that is too short. -/
def prvPadding (cfg : Config) (xDataLength : Nat) : List (Nat × List UInt8) :=
  if xDataLength < cfg.ipconfigEthernetMinimumPacketBytes then
    [(xDataLength, List.replicate (cfg.ipconfigEthernetMinimumPacketBytes - xDataLength) 0)]
  else []

/-- How `prvPrepareBufferUDPv4` ends: its result, what it wrote, and its descriptor. -/
structure Preparation where
  bOk : Bool
  fields : List (Nat × List UInt8)
  descriptor : NetworkBufferDescriptor

def prvPreparation (cfg : Config) (s : TSNSocket) (d : NetworkBufferDescriptor) (endPoints : EndPointId → EndPoint) :
    Option (MACAddress × EndPointId) → Preparation
  | none => ⟨false, [(0, List.replicate 6 0)], d⟩
  | some (xMac, e) =>
      let addresses := [(0, List.replicate 6 0), (0, xMac.toList), (6, (endPoints e).xMACAddress.toList)]
      match prvTypeField cfg s with
      | none => ⟨false, addresses, { d with pxEndPoint := some e }⟩
      | some bs =>
          ⟨true, addresses ++ (12, bs) :: prvIpFields cfg s d (endPoints e) (14 + socketTagSize cfg s)
              (sub32 (sub32 d.xDataLength 42) (socketTagSize cfg s)) ++ prvPadding cfg d.xDataLength,
            { d with pxEndPoint := some e, xDataLength := max d.xDataLength cfg.ipconfigEthernetMinimumPacketBytes }⟩

section Prepare

variable {cfg : Config} {w : World} {b : BufId} {s : TSNSocket}

theorem prvPrepareBufferUDPv4_eq (cfg : Config) (s : TSNSocket) (b : BufId) :
    prvPrepareBufferUDPv4 cfg s b = (do
      let d ← loadBuf b
      let p := d.pucEthernetBuffer
      writeFields p [(0, List.replicate 6 0)]
      match (← get).env.eARPGetCacheEntry d.xIPAddress.ulIPv4 with
      | none => return false
      | some (xMac, e) =>
          writeFields p [(0, xMac.toList)]
          modifyBuf b fun d => { d with pxEndPoint := some e }
          let w ← get
          writeFields p [(6, (w.endPoints e).xMACAddress.toList)]
          match prvTypeField cfg s with
          | none => return false
          | some bs =>
              writeFields p ((12, bs) :: prvIpFields cfg s d (w.endPoints e) (14 + socketTagSize cfg s)
                (sub32 (sub32 d.xDataLength 42) (socketTagSize cfg s)))
              if d.xDataLength < cfg.ipconfigEthernetMinimumPacketBytes then
                writeFields p [(d.xDataLength,
                  List.replicate (cfg.ipconfigEthernetMinimumPacketBytes - d.xDataLength) 0)]
                modifyBuf b fun d => { d with xDataLength := cfg.ipconfigEthernetMinimumPacketBytes }
              return true) := by
  simp only [prvPrepareBufferUDPv4, writeFields_singleton]
  refine bind_congr fun d => bind_congr fun _ => bind_congr fun w => ?_
  cases w.env.eARPGetCacheEntry d.xIPAddress.ulIPv4 with
  | none => rfl
  | some entry =>
      obtain ⟨xMac, e⟩ := entry
      cases hi : cfg.tsnconfigSocketInsertsVlanTags with
      | false => simp [writeFields, prvIpFields, prvTypeField, hi, ipSizeOfEthHeader, ipSizeOfIPv4Header]
      | true =>
          rcases hcount : s.ucVLANTagsCount with _ | _ | _ | k
          · simp [writeFields, prvIpFields, prvTypeField, prvWriteTags, hi, hcount, ipSizeOfEthHeader, ipSizeOfIPv4Header]
          · simp [writeFields, prvIpFields, prvTypeField, prvWriteTags, hi, hcount, ipSizeOfEthHeader, ipSizeOfIPv4Header]
          · simp [writeFields, prvIpFields, prvTypeField, prvWriteTags, hi, hcount, ipSizeOfEthHeader, ipSizeOfIPv4Header]
          · simp [prvTypeField, prvWriteTags, hi, hcount]

theorem prvTypeField_length {bs : List UInt8} (h : prvTypeField cfg s = some bs) :
    bs.length = socketTagSize cfg s + 2 := by
  rw [socketTagSize]
  cases hi : cfg.tsnconfigSocketInsertsVlanTags with
  | false =>
      simp only [prvTypeField, hi, Bool.false_eq_true, if_false, Option.some.injEq] at h
      subst h
      rfl
  | true =>
      simp only [prvTypeField, hi, if_true] at h
      rcases hcount : s.ucVLANTagsCount with _ | _ | _ | k <;> rw [hcount] at h <;> cases h <;> rfl

/-- The loop that pads the frame. -/
theorem run_prvPad (cfg : Config) (d : NetworkBufferDescriptor) (hd : (w.bufs b).xDataLength = d.xDataLength) :
    (do
        if d.xDataLength < cfg.ipconfigEthernetMinimumPacketBytes then
          writeFields (.eth b 0) [(d.xDataLength,
            List.replicate (cfg.ipconfigEthernetMinimumPacketBytes - d.xDataLength) 0)]
          modifyBuf b fun d => { d with xDataLength := cfg.ipconfigEthernetMinimumPacketBytes }
        return true : M Bool).run w =
      .ok true (wrote (w.setBuf b { w.bufs b with
        xDataLength := max d.xDataLength cfg.ipconfigEthernetMinimumPacketBytes }) b (prvPadding cfg d.xDataLength)) := by
  by_cases hpad : d.xDataLength < cfg.ipconfigEthernetMinimumPacketBytes
  · rw [if_pos hpad, run_bind_ok (run_writeFields _ _ _), run_bind_ok (run_modifyBuf _ _ _), prvPadding, if_pos hpad,
      Nat.max_eq_right (Nat.le_of_lt hpad)]
    rfl
  · rw [if_neg hpad, prvPadding, if_neg hpad, wrote_nil, Nat.max_eq_left (Nat.not_lt.mp hpad), ← hd]
    exact congrArg _ (setBuf_self w b).symm

theorem run_prvPrepareBufferUDPv4 (cfg : Config) (s : TSNSocket) (hp : (w.bufs b).pucEthernetBuffer = .eth b 0) :
    (prvPrepareBufferUDPv4 cfg s b).run w =
      let r := prvPreparation cfg s (w.bufs b) w.endPoints (w.env.eARPGetCacheEntry (w.bufs b).xIPAddress.ulIPv4)
      .ok r.bOk (wrote (w.setBuf b r.descriptor) b r.fields) := by
  rw [prvPrepareBufferUDPv4_eq, run_bind_ok (run_loadBuf _ _)]
  dsimp only
  rw [hp, run_bind_ok (run_writeFields _ _ _), run_bind_ok (EStateM.run_get _)]
  cases harp : w.env.eARPGetCacheEntry (w.bufs b).xIPAddress.ulIPv4 with
  | none =>
      simp only [wrote_env, harp, prvPreparation, setBuf_self]
      rfl
  | some entry =>
      obtain ⟨xMac, e⟩ := entry
      simp only [wrote_env, harp, prvPreparation]
      rw [run_bind_ok (run_writeFields _ _ _), run_bind_ok (run_modifyBuf _ _ _), run_bind_ok (EStateM.run_get _),
        run_bind_ok (run_writeFields _ _ _)]
      simp only [wrote_wrote, wrote_setBuf, wrote_bufs, wrote_endPoints, World.setBuf_endPoints, List.cons_append,
        List.nil_append]
      cases prvTypeField cfg s with
      | none => rfl
      | some bs =>
          dsimp only
          rw [run_bind_ok (run_writeFields _ _ _), run_prvPad _ _ (by simp)]
          simp only [wrote_wrote, wrote_setBuf, wrote_bufs, World.setBuf_bufs, Function.update_self, setBuf_setBuf,
            List.cons_append, List.nil_append]

end Prepare

/-! ## The frame -/

section Layout

variable (cfg : Config) (s : TSNSocket) (d : NetworkBufferDescriptor) (ep : EndPoint) (xMac : MACAddress)
  (bs p : List UInt8) (k : Nat)

/-- What is written when all goes well, but for the address that is cleared at first, with `k` bytes of tags. -/
def sentFields : List (Nat × List UInt8) :=
  (0, xMac.toList) :: (6, ep.xMACAddress.toList) :: (12, bs) ::
    (prvIpFields cfg s d ep (14 + k) p.length ++ prvPadding cfg (p.length + (42 + k)) ++ [(42 + k, p)])

/-- The headers of the network and the transport layer. -/
def prvIpBytes (n : Nat) : List UInt8 :=
  [0x45, diffservSetDsClassIPv4 s.ucDSClass] ++ bytes16 (swap16 (UInt16.ofNat (n + 28))) ++ bytes16 0 ++ bytes16 0 ++
    [cfg.ipconfigUdpTimeToLive, ipProtocolUdp] ++ bytes16 0 ++ bytes32 ep.ulIPAddress ++ bytes32 d.xIPAddress.ulIPv4 ++
    bytes16 d.usBoundPort ++ bytes16 d.usPort ++ bytes16 (swap16 (UInt16.ofNat (n + 8))) ++ bytes16 0

/-- The fields in the order of their offsets. -/
def sentLayout : List (Nat × List UInt8) :=
  [(0, xMac.toList), (6, ep.xMACAddress.toList), (12, bs), (14 + k, [0x45]),
    (14 + k + 1, [diffservSetDsClassIPv4 s.ucDSClass]), (14 + k + 2, bytes16 (swap16 (UInt16.ofNat (p.length + 28)))),
    (14 + k + 4, bytes16 0), (14 + k + 6, bytes16 0), (14 + k + 8, [cfg.ipconfigUdpTimeToLive]),
    (14 + k + 9, [ipProtocolUdp]), (14 + k + 10, bytes16 0), (14 + k + 12, bytes32 ep.ulIPAddress),
    (14 + k + 16, bytes32 d.xIPAddress.ulIPv4), (14 + k + 20, bytes16 d.usBoundPort), (14 + k + 20 + 2, bytes16 d.usPort),
    (14 + k + 20 + 4, bytes16 (swap16 (UInt16.ofNat (p.length + 8)))), (14 + k + 20 + 6, bytes16 0), (42 + k, p)] ++
    prvPadding cfg (p.length + (42 + k))

variable {bs k} (hlen : bs.length = k + 2)

theorem sentFields_separate (hlen : bs.length = k + 2) : (sentFields cfg s d ep xMac bs p k).Pairwise Mem.Separate := by
  rw [sentFields, prvPadding]
  split
  · simp only [prvIpFields, Mem.Separate, hlen, List.cons_append, List.nil_append, List.pairwise_cons, List.mem_cons,
      List.not_mem_nil, forall_eq_or_imp, forall_eq, false_implies, implies_true, and_true, or_false, List.length_cons,
      List.length_nil, List.length_replicate, bytes16_length, bytes32_length, Vector.length_toList, List.Pairwise.nil]
    omega
  · simp only [prvIpFields, Mem.Separate, hlen, List.cons_append, List.nil_append, List.pairwise_cons, List.mem_cons,
      List.not_mem_nil, forall_eq_or_imp, forall_eq, false_implies, implies_true, and_true, or_false, List.length_cons,
      List.length_nil, bytes16_length, bytes32_length, Vector.length_toList, List.Pairwise.nil]
    omega

theorem sentLayout_tiled (hlen : bs.length = k + 2) : Mem.Tiled 0 (sentLayout cfg s d ep xMac bs p k) := by
  rw [sentLayout, prvPadding]
  split
  · simp [Mem.Tiled, hlen]
    omega
  · simp [Mem.Tiled, hlen]
    omega

theorem sentLayout_subset : sentLayout cfg s d ep xMac bs p k ⊆ sentFields cfg s d ep xMac bs p k := by
  intro f hf
  rw [sentLayout, List.mem_append] at hf
  rcases hf with hf | hf
  · simp only [List.mem_cons, List.not_mem_nil, or_false] at hf
    rcases hf with rfl | rfl | rfl | rfl | rfl | rfl | rfl | rfl | rfl | rfl | rfl | rfl | rfl | rfl | rfl | rfl | rfl | rfl
    all_goals simp [sentFields, prvIpFields]
  · simp [sentFields, hf]

/-- The frame: the headers, the payload and the padding. -/
theorem sentFields_read (hlen : bs.length = k + 2) (m : Mem) :
    (m.writeAll (sentFields cfg s d ep xMac bs p k)).read 0
        (max (p.length + (42 + k)) cfg.ipconfigEthernetMinimumPacketBytes) =
      xMac.toList ++ (ep.xMACAddress.toList ++ (bs ++ (prvIpBytes cfg s d ep p.length ++ (p ++
        List.replicate (cfg.ipconfigEthernetMinimumPacketBytes - (p.length + (42 + k))) 0)))) := by
  have hread := Mem.read_tiled (sentLayout_tiled cfg s d ep xMac p hlen) fun f hf =>
    Mem.writeAll_read (sentFields_separate cfg s d ep xMac p hlen) (sentLayout_subset cfg s d ep xMac p hf) m
  have hflat : (sentLayout cfg s d ep xMac bs p k).flatMap Prod.snd =
      xMac.toList ++ (ep.xMACAddress.toList ++ (bs ++ (prvIpBytes cfg s d ep p.length ++ (p ++
        List.replicate (cfg.ipconfigEthernetMinimumPacketBytes - (p.length + (42 + k))) 0)))) := by
    rw [sentLayout, prvPadding, List.flatMap_append]
    split
    · simp [prvIpBytes]
    · rename_i hpad
      simp [prvIpBytes, Nat.sub_eq_zero_of_le (Nat.not_lt.mp hpad)]
  rw [hflat] at hread
  have hsize : (xMac.toList ++ (ep.xMACAddress.toList ++ (bs ++ (prvIpBytes cfg s d ep p.length ++ (p ++
      List.replicate (cfg.ipconfigEthernetMinimumPacketBytes - (p.length + (42 + k))) 0))))).length =
      max (p.length + (42 + k)) cfg.ipconfigEthernetMinimumPacketBytes := by
    simp [prvIpBytes, hlen]
    omega
  rw [← hsize]
  exact hread

end Layout

end FreeRtosTsn.Packet
