import FreeRtosTsn.Packet.Lemmas.SourceAddress
import FreeRtosTsn.Packet.Theorems

/-!
# Where to reply
-/

namespace FreeRtosTsn.Packet

open Lib Kernel

/-- **Source address**: what `FreeRTOS_TSN_recvfrom` and `FreeRTOS_TSN_recvmsg` leave in the address buffer is the
address of the sender exactly when the datagram goes to the port it comes from, and the buffer held the address already. -/
theorem source_reported_iff {cfg : Config} {v w : World} {b : BufId} {a t : Addr} {s : TSNSocket} {x : BaseSocket}
    {rest : List BufId} {dst : List UInt8} (hv : Ipv4Arrival v b) (h : DeliveredWith cfg b a v w)
    (hok : TsnSocketOk w t s x) (hb : x.bBound = true) (hl : x.xWaitingPacketsList = b :: rest)
    (hdst : dst.length = Sockaddr.size) :
    (∀ pvBuffer uxBufferLength xFlags,
      ReportsSource (freeRtosTsnRecvfrom t pvBuffer uxBufferLength xFlags (some dst)) (untaggedFrame v b) w ↔
        SourceForeseen (untaggedFrame v b) dst) ∧
    ∀ u xFlags, AsksForSource u dst xFlags →
      (ReportsSource (freeRtosTsnRecvmsg t (some u) xFlags) (untaggedFrame v b) w ↔
        SourceForeseen (untaggedFrame v b) dst) := by
  constructor
  · intro pvBuffer uxBufferLength xFlags
    exact reportsSource_recvmsg_iff hv h hok hb hl hdst (asksForSource_recvfrom pvBuffer uxBufferLength xFlags dst)
  · intro u xFlags hu
    exact reportsSource_recvmsg_iff hv h hok hb hl hdst hu

/-- The node that listens on port 80 has another frame in its buffers. -/
def heardWorld (m : Mem) : World := { listeningWorld with mem := fun _ => m }

def heardReceived (m : Mem) : World := lastState ((prvHandleReceive 7).run (heardWorld m))

def heardDelivered (cfg : Config) (m : Mem) : World :=
  lastState ((prvDeliverFrame cfg (rxItem 7 (some 1)) true).run (heardReceived m))

theorem heardWorld_arrival {m : Mem} (h : UdpOverIPv4 (strippedMem m 45) (strippedLength m 45)) :
    Ipv4Arrival (heardWorld m) 7 where
  heapOk := ⟨listeningWorld_heapOk.toMsgHeap, listeningWorld_heapOk.fresh, fun _ h => (nomatch h), List.nodup_nil⟩
  timebaseOk := fun h => nomatch h
  socketsOk := listeningWorld_socketsOk
  pvPortMalloc := fun _ => rfl
  pucEthernetBuffer := rfl
  datagram := h

section Heard

variable {m : Mem} (hreceive : (prvHandleReceive 7).run (heardWorld m) = .ok (some (rxItem 7 (some 1))) (heardReceived m))
  (hdeliver : (prvDeliverFrame {} (rxItem 7 (some 1)) true).run (heardReceived m) = .ok () (heardDelivered {} m))
include hreceive hdeliver

theorem heardDelivered_with : DeliveredWith {} 7 1 (heardWorld m) (heardDelivered {} m) :=
  .mk hreceive rfl ⟨rfl, rfl, fun _ h => ⟨h, fun _ _ _ => rfl⟩⟩ hdeliver ⟨rfl, rfl, fun _ h => ⟨h, fun _ _ _ => rfl⟩⟩

theorem heardDelivered_heapOk (hv : Ipv4Arrival (heardWorld m) 7)
    (hp : ((heardDelivered {} m).bufs 7).pucEthernetBuffer = .blk 1) : HeapOk (heardDelivered {} m) := by
  obtain ⟨hb, msg, hleft⟩ :=
    prvHandleReceive_message hv.heapOk hv.timebaseOk hv.socketsOk hv.pucEthernetBuffer hreceive rfl
  have hwaits := prvDeliverFrame_waits hb rfl hleft.pucEthernetBuffer hleft.msghdr hleft.msgFlags hdeliver hp
  exact hwaits.2.2.2 hleft.heapOk

end Heard

/-- Three bytes from port 80 of 10.0.0.2 to port 80 of 10.0.0.1. -/
def echoFrame : Mem := fun i =>
  ([(12, 8), (14, 69), (17, 31), (22, 128), (23, 17), (26, 10), (29, 2), (30, 10), (33, 1), (35, 80), (37, 80), (39, 11),
    (42, 1), (43, 2), (44, 3)].lookup i).getD 0

theorem echoFrame_arrival : Ipv4Arrival (heardWorld echoFrame) 7 := by
  apply heardWorld_arrival
  exact ⟨by decide, by decide, by decide, by decide, by decide, by decide, by decide⟩

theorem echoFrame_ok : TsnSocketOk (heardDelivered {} echoFrame) 0 ⟨0, 0, 0, 0, 0, 0, 0⟩ servedSocket :=
  servedSocket_ok (heardDelivered_heapOk rfl rfl echoFrame_arrival rfl) rfl rfl rfl ⟨rfl, rfl, rfl, rfl, rfl⟩ rfl

/-- A buffer that holds the address 10.0.0.2. -/
def knownSource : List UInt8 := List.replicate 8 0 ++ [10, 0, 0, 2] ++ List.replicate 12 0

theorem source_reported_echo :
    ReportsSource (freeRtosTsnRecvfrom 0 [9, 9] 2 0 (some knownSource)) (untaggedFrame (heardWorld echoFrame) 7)
      (heardDelivered {} echoFrame) :=
  ((source_reported_iff echoFrame_arrival (heardDelivered_with rfl rfl) echoFrame_ok rfl rfl rfl).1 [9, 9] 2 0).mpr
    ⟨by decide, by decide⟩

/-- The same bytes from port 5001. -/
def peerFrame : Mem := fun i => if i = 34 then 0x13 else if i = 35 then 0x89 else echoFrame i

theorem peerFrame_arrival : Ipv4Arrival (heardWorld peerFrame) 7 := by
  apply heardWorld_arrival
  exact ⟨by decide, by decide, by decide, by decide, by decide, by decide, by decide⟩

theorem peerFrame_ok : TsnSocketOk (heardDelivered {} peerFrame) 0 ⟨0, 0, 0, 0, 0, 0, 0⟩ servedSocket :=
  servedSocket_ok (heardDelivered_heapOk rfl rfl peerFrame_arrival rfl) rfl rfl rfl ⟨rfl, rfl, rfl, rfl, rfl⟩ rfl

/-- The user is told to reply to port 80 of the address 0.0.0.0. -/
theorem source_misreported :
    Ipv4Arrival (heardWorld peerFrame) 7 ∧ DeliveredWith {} 7 1 (heardWorld peerFrame) (heardDelivered {} peerFrame) ∧
      TsnSocketOk (heardDelivered {} peerFrame) 0 ⟨0, 0, 0, 0, 0, 0, 0⟩ servedSocket ∧
      ¬ReportsSource (freeRtosTsnRecvfrom 0 [9, 9] 2 0 (some (List.replicate 24 0)))
        (untaggedFrame (heardWorld peerFrame) 7) (heardDelivered {} peerFrame) := by
  refine ⟨peerFrame_arrival, heardDelivered_with rfl rfl, peerFrame_ok, ?_⟩
  intro h
  have hask := asksForSource_recvfrom [9, 9] 2 0 (List.replicate 24 0)
  have hforeseen := (reportsSource_recvmsg_iff peerFrame_arrival (heardDelivered_with rfl rfl) peerFrame_ok rfl rfl rfl
    hask).mp h
  exact absurd hforeseen.sinPort (by decide)

end FreeRtosTsn.Packet
