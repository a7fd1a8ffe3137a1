import FreeRtosTsn.Packet.Bounds

/-!
# Demultiplexing

Where the UDP header of a frame without tags is, and which sockets the frame is for.
-/

namespace FreeRtosTsn.Packet

open Lib Kernel

/-! ## The frame -/

/-- The length of an IPv4 header in words. -/
def ihl (m : Mem) : Nat := (m ipSizeOfEthHeader).toNat % 16

/-- The number in the two bytes at `i`. -/
def wireNumber (m : Mem) (i : Nat) : Nat := (swap16 (m.load16 i)).toNat

/-- One whole UDP datagram over IPv4, with or without options, in the first `n` bytes. -/
structure UdpOverIPv4 (m : Mem) (n : Nat) : Prop where
  usFrameType : m.load16 ethFrameType = ipIPv4FrameType
  version : (m ipSizeOfEthHeader).toNat / 16 = 4
  ihl_ge : 5 ≤ ihl m
  unfragmented : wireNumber m (ipSizeOfEthHeader + 6) % 2 ^ 14 = 0
  protocol : m (ipSizeOfEthHeader + 9) = ipProtocolUdp
  totalLength : ipSizeOfEthHeader + wireNumber m (ipSizeOfEthHeader + 2) ≤ n
  udpLength : 8 ≤ wireNumber m (ipSizeOfEthHeader + 4 * ihl m + 4) ∧
    4 * ihl m + wireNumber m (ipSizeOfEthHeader + 4 * ihl m + 4) ≤ wireNumber m (ipSizeOfEthHeader + 2)

/-- One whole UDP datagram over IPv6 without extension headers. -/
structure UdpOverIPv6 (m : Mem) (n : Nat) : Prop where
  usFrameType : m.load16 ethFrameType = ipIPv6FrameType
  version : (m ipSizeOfEthHeader).toNat / 16 = 6
  nextHeader : m (ipSizeOfEthHeader + 6) = ipProtocolUdp
  payloadLength : ipSizeOfEthHeader + 40 + wireNumber m (ipSizeOfEthHeader + 4) ≤ n
  udpLength : 8 ≤ wireNumber m (ipSizeOfEthHeader + 40 + 4) ∧
    wireNumber m (ipSizeOfEthHeader + 40 + 4) ≤ wireNumber m (ipSizeOfEthHeader + 4)

/-- The driver received such a frame on an interface. -/
structure UdpFrame (w : World) (b : BufId) : Prop where
  pucEthernetBuffer : (w.bufs b).pucEthernetBuffer = .eth b 0
  pxInterface : (w.bufs b).pxInterface ≠ none
  pxEndPoint : (w.bufs b).pxEndPoint ≠ none
  datagram : UdpOverIPv4 (w.mem b) (w.bufs b).xDataLength ∨ UdpOverIPv6 (w.mem b) (w.bufs b).xDataLength

/-- The offset of the UDP header. -/
def udpPlace (m : Mem) : Nat :=
  if m.load16 ethFrameType = ipIPv4FrameType then ipSizeOfEthHeader + 4 * ihl m else ipSizeOfEthHeader + 40

/-- The destination and the source port in the UDP header, in network byte order. -/
def udpPorts (m : Mem) : UInt16 × UInt16 := (m.load16 (udpPlace m + 2), m.load16 (udpPlace m))

/-! ## The sockets -/

/-- What the reception does once it knows the sockets. -/
def prvMsghForSockets (pxBuf : BufId) (f : ParsedFrame) : Option SockId × Option Addr → M (Option (Option Addr))
  | (_, some pxTSNSocket) => return some (some (← prvBuildMsgh pxBuf pxTSNSocket f))
  | (some _, none) => return some none
  | (none, none) => return none

def prvItemForSockets (pxBuf : BufId) (f : ParsedFrame) (r : Option SockId × Option Addr) :
    M (Option NetworkQueueItem) := do
  match ← prvMsghForSockets pxBuf f r with
  | none => return none
  | some pxMsgh => prvMakeItem ⟨.eNetworkRxEvent, some pxBuf, pxMsgh, true⟩

/-- What the delivery does once it knows the sockets. -/
def prvDispatchTo (cfg : Config) (pxItem : NetworkQueueItem) (b : BufId) (ucProto : UInt8) (xUsingIPTask : Bool) :
    Option SockId × Option Addr → M Unit
  | (xBaseSocket, some xTSNSocket) => do prvReceiveUDPPacketTSN cfg pxItem xTSNSocket (← deref xBaseSocket)
  | (some _, none) => prvDeliverToPlainSocket pxItem b ucProto xUsingIPTask
  | (none, none) => prvToIPTask b

/-- The frame in `b` is for the sockets that are bound to the destination port of its UDP header, when it is received
and whenever it is delivered. -/
structure Demultiplexed (cfg : Config) (b : BufId) (w : World) : Prop where
  usBoundPort : ((lastState ((prvHandleReceive b).run w)).bufs b).usBoundPort = (udpPorts (w.mem b)).1
  usPort : ((lastState ((prvHandleReceive b).run w)).bufs b).usPort = (udpPorts (w.mem b)).2
  reception : (udpPorts (w.mem b)).1 ≠ 0 → ∃ f w₁, FrameStep b w w₁ ∧
    (prvHandleReceive b).run w = (vSocketFromPort (udpPorts (w.mem b)).1 >>= prvItemForSockets b f).run w₁
  delivery : ∀ xItem w₂ xUsingIPTask, xItem.pxBuf = some b →
    w₂.bufs b = (lastState ((prvHandleReceive b).run w)).bufs b →
    w₂.mem b = (lastState ((prvHandleReceive b).run w)).mem b → ∃ ucProto w₃, FrameStep b w₂ w₃ ∧
      (prvDeliverFrame cfg xItem xUsingIPTask).run w₂ =
        (vSocketFromPort (udpPorts (w.mem b)).1 >>= prvDispatchTo cfg xItem b ucProto xUsingIPTask).run w₃

/-- The ports are where a header without options ends. -/
def PortsInPlace (m : Mem) : Prop :=
  m.load16 ethFrameType = ipIPv6FrameType ∨ ihl m = 5 ∨
    m.load16 (ipSizeOfEthHeader + 20) = m.load16 (ipSizeOfEthHeader + 4 * ihl m) ∧
      m.load16 (ipSizeOfEthHeader + 22) = m.load16 (ipSizeOfEthHeader + 4 * ihl m + 2)

end FreeRtosTsn.Packet
