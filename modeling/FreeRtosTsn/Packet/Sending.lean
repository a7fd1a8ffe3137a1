import FreeRtosTsn.Lib.Ethernet
import FreeRtosTsn.Packet.Sockets

/-!
# What a send should do

The buffer that `FreeRTOS_TSN_sendto` obtains, the item that it queues, and the frame that this item stands for.
-/

namespace FreeRtosTsn.Packet

open Lib Kernel Scheduler

def sendItem (b : BufId) : NetworkQueueItem := ⟨.eNetworkTxEvent, some b, none, true⟩

/-- The buffer that `pxGetNetworkBufferWithDescriptor` returns in the call, if it is called. -/
def sendtoBuffer (w : World) (x : BaseSocket) : Option Destination → Option BufId
  | none => none
  | some dest =>
      if x.bBound ∧ (dest.sinFamily = freertosAfInet6 ∨ dest.sinFamily = freertosAfInet) ∧
          w.env.pxGetNetworkBufferWithDescriptor w.calls then some w.calls
      else none

/-- The size of the buffer for a datagram over IPv4 with `n` bytes of payload. -/
def sendSize (cfg : Config) (s : TSNSocket) (n : Nat) : Nat := wrap32 (n + (42 + socketTagSize cfg s))

/-- The accesses beyond the size that was asked for are in the first `n` bytes of the buffer. -/
def AccessesWithin (b : BufId) (n : Nat) (w w' : World) : Prop :=
  ∃ accesses, w'.overruns = w.overruns ++ accesses ∧ ∀ a ∈ accesses, a.1 = b ∧ a.2.1 + a.2.2 ≤ n

/-- What is written has room in the buffer: the headers when its size did not wrap or the smallest frame holds them, and
without a destination the address that is cleared. -/
def SendFits (cfg : Config) (s : TSNSocket) (x : BaseSocket) (dest : Option Destination) (n : Nat) (w : World) : Prop :=
  ∀ d, dest = some d → d.sinFamily = freertosAfInet → (sendtoBuffer w x dest).isSome →
    if (w.env.eARPGetCacheEntry d.sinAddress.ulIPv4).isSome then
      n + 42 + socketTagSize cfg s < 2 ^ 32 ∨ 42 + socketTagSize cfg s ≤ cfg.ipconfigEthernetMinimumPacketBytes
    else 6 ≤ max (sendSize cfg s n) cfg.ipconfigEthernetMinimumPacketBytes

/-- The tags of a socket. -/
def socketTags (cfg : Config) (s : TSNSocket) : List Ethernet.Tag :=
  if cfg.tsnconfigSocketInsertsVlanTags then
    match s.ucVLANTagsCount with
    | 1 => [⟨0x8100, s.usVLANCTagTCI.toNat⟩]
    | 2 => [⟨0x88a8, s.usVLANSTagTCI.toNat⟩, ⟨0x8100, s.usVLANCTagTCI.toNat⟩]
    | _ => []
  else []

/-- The frame of the payload `p` from the endpoint `ep` to `xMac`. -/
def sentDatagram (cfg : Config) (s : TSNSocket) (x : BaseSocket) (dest : Destination) (ep : EndPoint) (xMac : MACAddress)
    (p : List UInt8) : Ethernet.Frame where
  destinationMac := xMac.toList
  sourceMac := ep.xMACAddress.toList
  tags := socketTags cfg s
  dscp := s.ucDSClass.toNat
  ecn := 0
  totalLength := p.length + 28
  identification := 0
  fragment := 0
  ttl := cfg.ipconfigUdpTimeToLive
  headerChecksum := 0
  sourceAddress := bytes32 ep.ulIPAddress
  destinationAddress := bytes32 dest.sinAddress.ulIPv4
  sourcePort := x.usLocalPort.toNat
  destinationPort := (swap16 dest.sinPort).toNat
  udpLength := p.length + 8
  udpChecksum := 0
  payload := p

end FreeRtosTsn.Packet
