import FreeRtosTsn.Packet.SourceAddress
import FreeRtosTsn.Packet.Lemmas.Arrive
import FreeRtosTsn.Packet.Lemmas.Received

/-!
# The name of a message, from the parser to the user
-/

namespace FreeRtosTsn.Packet

open Lib Kernel

variable {cfg : Config} {v v₁ w w' : World} {b : BufId} {a t : Addr} {s : TSNSocket} {x : BaseSocket}
  {rest : List BufId} {m : Msghdr} {n : Nat} {u : UserMsghdr} {dst : List UInt8}

/-! ## The copy -/

/-- Four bytes of a name: its port gets through, its address does not. -/
theorem ofBytes_copiedName (name : Sockaddr) (hdst : dst.length = Sockaddr.size) :
    Destination.ofBytes (copyTo dst (name.bytes.take 4)) =
      ⟨name.sinFamily, name.sinPort, .ipv4 ((Mem.ofBytes dst).load32 8)⟩ := by
  have htake : name.bytes.take 4 = [name.sinLen, name.sinFamily] ++ bytes16 name.sinPort := rfl
  have hmem : Mem.ofBytes (copyTo dst (name.bytes.take 4)) =
      ((Mem.ofBytes dst).write 0 [name.sinLen, name.sinFamily]).store16 2 name.sinPort := by
    have hroom : 0 + (name.bytes.take 4).length ≤ dst.length := by
      rw [hdst]
      exact (Nat.zero_add _).trans_le ((List.length_take_le 4 name.bytes).trans (by decide))
    rw [copyTo, ofBytes_overwrite hroom, htake, Mem.write_append]
    rfl
  rw [Destination.ofBytes, hmem, Mem.load16_store16, Destination.mk.injEq]
  refine ⟨?_, rfl, ?_⟩
  · rw [Mem.store16, Mem.write_of_lt (by decide)]
    exact Mem.write_at _ 0 (show 1 < [name.sinLen, name.sinFamily].length from Nat.one_lt_two)
  · have hrest : ∀ i < 4, ((Mem.ofBytes dst).write 0 [name.sinLen, name.sinFamily]).store16 2 name.sinPort (8 + i) =
        Mem.ofBytes dst (8 + i) := by
      intro i hi
      rw [Mem.store16, Mem.write_of_ge (by rw [bytes16_length]; omega),
        Mem.write_of_ge (by rw [List.length_cons, List.length_singleton]; omega)]
    rw [Mem.load32_congr hrest]

theorem copiedName_named {name : Sockaddr} (hname : NamedBy w m name) {xFlags : Nat} (hu : AsksForSource u dst xFlags) :
    (copiedName w.heap m u).msgName = some (copyTo dst (name.bytes.take 4)) := by
  obtain ⟨hlen, y, hy, hblk⟩ := hname
  rw [copiedName, hy, Option.bind_some, hblk, hu.msgName, hu.msgNamelen, hlen]
  rfl

/-- A user with a vector for each that is asked for gets the message, and its name. -/
theorem takenMessage_msgName (hu : ∀ us, u.msgIov = some us → u.msgIovlen ≤ us.length) :
    ∃ r, takenMessage w m b n u = some r ∧ r.2.msgName = (copiedName w.heap m u).msgName := by
  have hname : (copiedName w.heap m u).msgIov = u.msgIov ∧ (copiedName w.heap m u).msgIovlen = u.msgIovlen := by
    unfold copiedName
    split <;> exact ⟨rfl, rfl⟩
  have hcontrol : ∀ u, (copiedControl w.heap m u).msgName = u.msgName := by
    intro u
    unfold copiedControl
    split <;> rfl
  unfold takenMessage
  generalize copiedName w.heap m u = u₁ at hname
  have hiov : ∃ r, copiedIov (w.mem b) n u₁ = some r ∧ r.1.msgName = u₁.msgName := by
    rw [copiedIov, hname.1, hname.2]
    cases hi : u.msgIov with
    | none => exact ⟨_, rfl, rfl⟩
    | some us =>
        have hle := hu us hi
        cases hk : u.msgIovlen with
        | zero =>
            rw [Nat.zero_min]
            exact ⟨_, rfl, rfl⟩
        | succ k =>
            rw [hk] at hle
            rw [Nat.min_eq_right (Nat.succ_le_succ (Nat.zero_le k))]
            cases us with
            | nil => exact absurd hle (Nat.not_succ_le_zero k)
            | cons d us => exact ⟨_, rfl, rfl⟩
  obtain ⟨r, hr, hkeep⟩ := hiov
  refine ⟨_, by rw [hr, Option.map_some], ?_⟩
  exact (hcontrol r.1).trans hkeep

/-! ## The delivery -/

/-- The message that waits for the user names the destination of the frame. -/
theorem DeliveredWith.named (h : DeliveredWith cfg b a v w) (hv : Ipv4Arrival v b) (hok : TsnSocketOk w t s x)
    (hl : x.xWaitingPacketsList = b :: rest) :
    (w.bufs b).pucEthernetBuffer = .blk a ∧ w.mem b = untaggedFrame v b ∧ ∃ m i n, Carries w a b m i n ∧
      NamedBy w m ⟨4, freertosAfInet, (portsOf (untaggedFrame v b)).1, 0, destinationOf (untaggedFrame v b)⟩ := by
  obtain @⟨v₁, v₂, v₃, _, xItem, xUsingIPTask, hreceive, ha, hqueued, hdeliver, hwaits⟩ := h
  obtain ⟨hb, m, hleft⟩ := prvHandleReceive_message hv.heapOk hv.timebaseOk hv.socketsOk hv.pucEthernetBuffer hreceive ha
  obtain ⟨hmsg₂, hparts₂⟩ := hqueued.msghdr m hleft.msghdr
  obtain ⟨a', m', i, n, hp, hc⟩ := hok.waiting b (by rw [hl]; exact List.mem_cons_self)
  have hp₂ : (v₂.bufs b).pucEthernetBuffer = .eth b 0 := by
    rw [hqueued.bufs]
    exact hleft.pucEthernetBuffer
  have hp₃ : (v₃.bufs b).pucEthernetBuffer = .blk a' := by
    rw [← hwaits.bufs]
    exact hp
  obtain ⟨rfl, hmem, hheap, -⟩ := prvDeliverFrame_waits hb ha hp₂ hmsg₂ hleft.msgFlags hdeliver hp₃
  obtain ⟨hmsg, hparts⟩ := hwaits.msghdr m (by rw [hheap]; exact hmsg₂)
  cases hc.msghdr.symm.trans hmsg
  have hframe : v₁.mem b = untaggedFrame v b := hleft.mem
  refine ⟨hp, ?_, m, i, n, hc, ?_⟩
  · rw [hwaits.mem, hmem, hqueued.mem, hframe]
  · have htype : (v₁.mem b).load16 ethFrameType = ipIPv4FrameType := by
      rw [hframe]
      exact hv.datagram.usFrameType
    obtain ⟨hlen, y, hy, hname⟩ := hleft.named htype hv.pvPortMalloc
    rw [hframe] at hname
    refine ⟨hlen, y, hy, ?_⟩
    rw [hparts .name y hy, hheap, hparts₂ .name y hy]
    exact hname

/-! ## The calls -/

/-- The port that the code takes for the destination. -/
theorem UdpOverIPv4.portsOf_fst {mem : Mem} (h : UdpOverIPv4 mem n) :
    (portsOf mem).1 = mem.load16 (ipSizeOfEthHeader + 22) := by
  have hproto : protocolOf mem = ipProtocolUdp := by rw [protocolOf, if_pos h.usFrameType, h.protocol]
  have hports : hasPorts mem = true := by
    rw [hasPorts, hproto]
    decide
  have hstart : uxPrefixOf mem = ipSizeOfEthHeader + 20 := if_pos h.usFrameType
  rw [portsOf, if_pos hports, hstart]

theorem reportsSource_recvmsg_iff (hv : Ipv4Arrival v b) (h : DeliveredWith cfg b a v w) (hok : TsnSocketOk w t s x)
    (hb : x.bBound = true) (hl : x.xWaitingPacketsList = b :: rest) (hdst : dst.length = Sockaddr.size) {xFlags : Nat}
    (hu : AsksForSource u dst xFlags) :
    ReportsSource (freeRtosTsnRecvmsg t (some u) xFlags) (untaggedFrame v b) w ↔
      SourceForeseen (untaggedFrame v b) dst := by
  obtain ⟨hp, -, m, i, n, hc, hname⟩ := h.named hv hok hl
  obtain ⟨r, htaken, hmsgName⟩ := takenMessage_msgName (w := w) (b := b) (m := m) (n := n) hu.msgIovlen
  have hpacket := recvmsg_packet hok hb hu.xFlags hl hp hc u
  rw [htaken] at hpacket
  obtain ⟨w', hrun, -⟩ := hpacket
  rw [copiedName_named hname hu] at hmsgName
  have hread := ofBytes_copiedName
    ⟨4, freertosAfInet, (portsOf (untaggedFrame v b)).1, 0, destinationOf (untaggedFrame v b)⟩ hdst
  have hsame : Destination.ofBytes (copyTo dst (Sockaddr.bytes ⟨4, freertosAfInet, (portsOf (untaggedFrame v b)).1, 0,
      destinationOf (untaggedFrame v b)⟩ |>.take 4)) = sourceOf (untaggedFrame v b) ↔
        SourceForeseen (untaggedFrame v b) dst := by
    rw [hread, hv.datagram.portsOf_fst, sourceOf, Destination.mk.injEq, IPAddress.ipv4.injEq]
    exact ⟨fun h => ⟨h.2.1, h.2.2⟩, fun h => ⟨rfl, h.sinPort, h.sinAddress⟩⟩
  rw [← hsame]
  constructor
  · rintro ⟨r₁, u₁, w₁, bs, hrun₁, hbs, hsource⟩
    cases hrun.symm.trans hrun₁
    cases hmsgName.symm.trans hbs
    exact hsource
  · exact fun hsource => ⟨r.1, r.2, w', _, hrun, hmsgName, hsource⟩

/-- `FreeRTOS_TSN_recvfrom` asks for the address, whatever the flags. -/
theorem asksForSource_recvfrom (pvBuffer : List UInt8) (uxBufferLength xFlags : Nat) (dst : List UInt8) :
    AsksForSource ⟨some dst, Sockaddr.size, some [(pvBuffer, uxBufferLength)], 1, none, 0, 0⟩ dst
      (if hasFlag xFlags freertosMsgErrqueue then xFlags - freertosMsgErrqueue else xFlags) where
  msgName := rfl
  msgNamelen := rfl
  msgIovlen := by
    intro us h
    cases h
    exact Nat.le_refl 1
  xFlags := recvfrom_flags xFlags

end FreeRtosTsn.Packet
