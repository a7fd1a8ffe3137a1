import FreeRtosTsn.Packet.Demux
import FreeRtosTsn.Packet.Lemmas.Tags

/-!
# The address of the sender

The address that a receiver is given with a datagram, in order to reply.
-/

namespace FreeRtosTsn.Packet

open Lib Kernel

/-! ## Addresses -/

/-- What `FreeRTOS_TSN_sendto` reads in a `struct freertos_sockaddr` for IPv4. -/
def Destination.ofBytes (bs : List UInt8) : Destination where
  sinFamily := Mem.ofBytes bs 1
  sinPort := (Mem.ofBytes bs).load16 2
  sinAddress := .ipv4 ((Mem.ofBytes bs).load32 8)

/-- The address to reply to a UDP datagram over IPv4. -/
def sourceOf (m : Mem) : Destination where
  sinFamily := freertosAfInet
  sinPort := (udpPorts m).2
  sinAddress := .ipv4 (m.load32 (ipSizeOfEthHeader + 12))

/-! ## Deliveries -/

/-- Other code ran, but not on the frame in `b` nor on the blocks of the message at `a`. -/
structure MessageKept (b : BufId) (a : Addr) (w w' : World) : Prop where
  bufs : w'.bufs b = w.bufs b
  mem : w'.mem b = w.mem b
  msghdr : ∀ m, w.heap a = some (.msghdr m) →
    w'.heap a = some (.msghdr m) ∧ ∀ p y, part m p = some y → w'.heap y = w.heap y

/-- The frame in `b` was received with the message at `a`, waited in a queue, was delivered, and waits for its user. -/
inductive DeliveredWith (cfg : Config) (b : BufId) (a : Addr) : World → World → Prop
  | mk {v v₁ v₂ v₃ w : World} {xItem : NetworkQueueItem} {xUsingIPTask : Bool}
      (hreceive : (prvHandleReceive b).run v = .ok (some xItem) v₁) (ha : xItem.pxMsgh = some a)
      (hqueued : MessageKept b a v₁ v₂) (hdeliver : (prvDeliverFrame cfg xItem xUsingIPTask).run v₂ = .ok () v₃)
      (hwaits : MessageKept b a v₃ w) : DeliveredWith cfg b a v w

/-- The frame in `b` when its tags are gone. -/
def untaggedFrame (w : World) (b : BufId) : Mem := strippedMem (w.mem b) (w.bufs b).xDataLength

/-- A UDP datagram over IPv4, which the driver received with all the memory there is. -/
structure Ipv4Arrival (v : World) (b : BufId) : Prop where
  heapOk : HeapOk v
  timebaseOk : TimebaseOk v
  socketsOk : SocketsOk v
  pvPortMalloc : ∀ n, v.env.pvPortMalloc n = true
  pucEthernetBuffer : (v.bufs b).pucEthernetBuffer = .eth b 0
  datagram : UdpOverIPv4 (untaggedFrame v b) (strippedLength (v.mem b) (v.bufs b).xDataLength)

/-! ## Calls -/

/-- The user asks for the next datagram, with `dst` for the address of its sender. -/
structure AsksForSource (u : UserMsghdr) (dst : List UInt8) (xFlags : Nat) : Prop where
  msgName : u.msgName = some dst
  msgNamelen : u.msgNamelen = Sockaddr.size
  msgIovlen : ∀ us, u.msgIov = some us → u.msgIovlen ≤ us.length
  xFlags : hasFlag xFlags freertosMsgErrqueue = false

/-- The call returns, and the address that it left with the user is that of the sender of `m`. -/
def ReportsSource (call : M (Int × Option UserMsghdr)) (m : Mem) (w : World) : Prop :=
  ∃ r u w' bs, call.run w = .ok (r, some u) w' ∧ u.msgName = some bs ∧ Destination.ofBytes bs = sourceOf m

/-- The datagram goes to the port that it comes from, and `dst` already holds the address of its sender. -/
structure SourceForeseen (m : Mem) (dst : List UInt8) : Prop where
  sinPort : m.load16 (ipSizeOfEthHeader + 22) = (udpPorts m).2
  sinAddress : (Mem.ofBytes dst).load32 8 = m.load32 (ipSizeOfEthHeader + 12)

end FreeRtosTsn.Packet
