import FreeRtosTsn.Packet.Deliver

/-!
# Specifications

What is expected of the packet paths, in terms of the states before and after them.
-/

namespace FreeRtosTsn.Packet

open Lib Kernel Scheduler

/-! ## The heap -/

/-- The blocks that a message names. -/
inductive Part
  | iov
  | name
  | control
  deriving DecidableEq, Repr

def part (m : Msghdr) : Part → Option Addr
  | .iov => m.msgIov
  | .name => m.msgName
  | .control => m.msgControl

def isPart : Part → Block → Bool
  | .iov, .iovec _ => true
  | .name, .sockaddr _ => true
  | .control, .control _ => true
  | _, _ => false

/-- What a message names is live, and named by no other message. -/
structure MsgHeap (heap : Addr → Option Block) : Prop where
  live : ∀ {a m p x}, heap a = some (.msghdr m) → part m p = some x → ∃ b, heap x = some b ∧ isPart p b
  owner : ∀ {a a' m m' p p' x}, heap a = some (.msghdr m) → heap a' = some (.msghdr m') → part m p = some x →
    part m' p' = some x → a = a'

/-- The discipline of the heap: new blocks are new, and nothing is freed twice. -/
structure HeapOk (w : World) : Prop extends MsgHeap w.heap where
  fresh : ∀ x, w.calls ≤ x → w.heap x = none
  freed : ∀ x ∈ w.freed, x < w.calls ∧ w.heap x = none
  freedOnce : w.freed.Nodup

/-- The message `m` at `a` refers to the frame in `b`, through the vector at `i`. -/
structure Carries (w : World) (a : Addr) (b : BufId) (m : Msghdr) (i : Addr) (uxLength : Nat) : Prop where
  msghdr : w.heap a = some (.msghdr m)
  msgFlags : m.msgFlags = 0
  msgIov : m.msgIov = some i
  msgIovlen : m.msgIovlen = 1
  iovec : w.heap i = some (.iovec [⟨.eth b 0, uxLength⟩])

/-- Every socket in the list is live. -/
def SocketsOk (w : World) : Prop := ∀ e ∈ w.xTSNBoundUDPSocketList, ∃ s, w.heap e.2 = some (.tsnSocket s)

/-- The timebase is set before it is enabled. -/
def TimebaseOk (w : World) : Prop := w.xTimebaseState = .eTimebaseEnabled → w.bTimebaseHandleSet = true

/-! ## Buffers -/

/-- How often a buffer was released. -/
def releases (w : World) (b : BufId) : Nat := w.released.countP fun e => e.1 == b

/-- The bytes of the frame in a buffer. -/
def frameOf (w : World) (b : BufId) : List UInt8 := (w.mem b).read 0 (w.bufs b).xDataLength

/-- Nobody touched the buffer, and the interfaces are configured as before. -/
structure Untouched (b : BufId) (w w' : World) : Prop where
  bufs : w'.bufs b = w.bufs b
  mem : w'.mem b = w.mem b
  releases : releases w' b = releases w b
  endPoints : w'.endPoints = w.endPoints
  interfaces : w'.interfaces = w.interfaces

/-! ## Tags -/

/-- A frame was tagged on the way from `w` and stripped on the way to `w'`: it is the same again, and `t` tells what
was inserted. -/
structure TagsUndone (cfg : Config) (c : NetworkInterfaceConfig) (b : BufId) (w w' : World) (t : StrippedTags) :
    Prop where
  xDataLength : (w'.bufs b).xDataLength = (w.bufs b).xDataLength
  frame : frameOf w' b = frameOf w b
  uxNumTags : t.uxNumTags = uxInsertedTags cfg c
  usVLANTCI : 1 ≤ uxInsertedTags cfg c → t.usVLANTCI = some c.usVLANTag
  usVLANServiceTCI : 2 ≤ uxInsertedTags cfg c → t.usVLANServiceTCI = some c.usServiceVLANTag

/-! ## The fields of an untagged frame -/

def protocolOf (m : Mem) : UInt8 :=
  if m.load16 ethFrameType = ipIPv4FrameType then m (ipSizeOfEthHeader + 9)
  else if m.load16 ethFrameType = ipIPv6FrameType then m (ipSizeOfEthHeader + 6)
  else 255

def destinationOf (m : Mem) : IPAddress :=
  if m.load16 ethFrameType = ipIPv4FrameType then .ipv4 (m.load32 (ipSizeOfEthHeader + 16))
  else if m.load16 ethFrameType = ipIPv6FrameType then .ipv6 (m.read (ipSizeOfEthHeader + 24) 16)
  else .ipv4 0

def uxPrefixOf (m : Mem) : Nat :=
  if m.load16 ethFrameType = ipIPv4FrameType then ipSizeOfEthHeader + ipSizeOfIPv4Header
  else if m.load16 ethFrameType = ipIPv6FrameType then ipSizeOfEthHeader + ipSizeOfIPv6Header
  else ipSizeOfEthHeader

def hasPorts (m : Mem) : Bool := protocolOf m == ipProtocolUdp || protocolOf m == ipProtocolTcp

/-- The destination port and the source port. -/
def portsOf (m : Mem) : UInt16 × UInt16 :=
  if hasPorts m then (m.load16 (uxPrefixOf m + 2), m.load16 (uxPrefixOf m)) else (0, 0)

def parsedOf (m : Mem) : ParsedFrame := ⟨m.load16 ethFrameType, destinationOf m, (portsOf m).1⟩

/-! ## Sending -/

/-- A call of `xTSN_NetworkInterfaceOutput` from `w` until the frame was sent or refused in `w'`. A frame that another
task sends is in the queue meanwhile. -/
inductive Sends (cfg : Config) (i : IfaceId) (b : BufId) (bRelease : Bool) : World → World → Prop
  | controller {w : World} (h : w.bCallingFromController = true) :
      Sends cfg i b bRelease w (lastState ((xTsnNetworkInterfaceOutput cfg i b bRelease).run w))
  | refused {w w' : World} (h : w.bCallingFromController = false)
      (hrun : (xTsnNetworkInterfaceOutput cfg i b bRelease).run w = .ok false w') : Sends cfg i b bRelease w w'
  | queued {w w₁ w₂ : World} {q : NetworkQueue} (h : w.bCallingFromController = false)
      (hrun : (xTsnNetworkInterfaceOutput cfg i b bRelease).run w = .ok true w₁)
      (hq : ⟨.eNetworkTxEvent, some b, none, bRelease⟩ ∈ w₁.queues q.xQueue) (hw₂ : Untouched b w₁ w₂)
      (hc : w₂.bCallingFromController = true) :
      Sends cfg i b bRelease w
        (lastState ((prvServeItem cfg q ⟨.eNetworkTxEvent, some b, none, bRelease⟩).run w₂))

/-- The buffer is released once if the caller gave it away, and is as it was otherwise. -/
def Owned (b : BufId) (bRelease : Bool) (w w' : World) : Prop :=
  if bRelease then releases w' b = releases w b + 1
  else releases w' b = releases w b ∧ w'.bufs b = w.bufs b ∧ frameOf w' b = frameOf w b

/-- Some queue takes the item. -/
def Accepts (cfg : Config) (w : World) (xItem : NetworkQueueItem) : Prop :=
  ∃ q, prvChooseQueue xItem (bufferOf w xItem.pxBuf) none w.pxNetworkQueueList = some q ∧
    (w.queues q.xQueue).length < cfg.ipconfigEventQueueLength

/-- No tags are inserted on the interface of the endpoint, if there is one. -/
def NoTagsOn (cfg : Config) (w : World) : Option EndPointId → Prop
  | none => True
  | some e => uxInsertedTags cfg (w.interfaces (w.endPoints e).pxNetworkInterface) = 0

/-- When the ownership of the buffer is kept. -/
def KeepsOwnership (cfg : Config) (i : IfaceId) (b : BufId) (bRelease : Bool) (w : World) : Prop :=
  match w.bCallingFromController, bRelease with
  | true, true => True
  | true, false => uxInsertedTags cfg (w.interfaces i) = 0
  | false, true =>
      Accepts cfg w ⟨.eNetworkTxEvent, some b, none, true⟩ ∧ (w.bufs b).pxEndPoint.isSome
  | false, false =>
      Accepts cfg w ⟨.eNetworkTxEvent, some b, none, false⟩ → NoTagsOn cfg w (w.bufs b).pxEndPoint

/-! ## Delivering -/

/-- A received frame that is not tagged, long enough for its network header, and not UDP. -/
structure NonUDPFrame (w : World) (b : BufId) : Prop where
  pucEthernetBuffer : (w.bufs b).pucEthernetBuffer = .eth b 0
  pxInterface : (w.bufs b).pxInterface ≠ none
  pxEndPoint : (w.bufs b).pxEndPoint ≠ none
  xDataLength : ipSizeOfEthHeader ≤ (w.bufs b).xDataLength
  ipv4 : (w.mem b).load16 ethFrameType = ipIPv4FrameType → sizeOfIPPacket ≤ (w.bufs b).xDataLength
  notDefault : swap16 ((w.mem b).load16 ethFrameType) ≠ vlantagTpidDefault
  notDoubleTag : swap16 ((w.mem b).load16 ethFrameType) ≠ vlantagTpidDoubleTag
  notUDP : protocolOf (w.mem b) ≠ ipProtocolUdp

/-- The port is 0, or a socket is bound to it. -/
def Wanted (w : World) (p : UInt16) : Prop :=
  p = 0 ∨ prvLookup p w.xTSNBoundUDPSocketList ≠ none ∨ prvLookup p w.xBoundUDPSocketsList ≠ none

/-- An item waits in a queue from `w` to `w'`; the sockets may be others then. -/
structure Later (b : BufId) (xItem : NetworkQueueItem) (w w' : World) : Prop where
  bufs : w'.bufs b = w.bufs b
  mem : w'.mem b = w.mem b
  heap : MsgHeap w'.heap
  msgh : ∀ a, xItem.pxMsgh = some a → w'.heap a = w.heap a

/-- The frame in `b` was handed to the IP task and nothing else was done with it. -/
structure Forwarded (b : BufId) (w w' : World) : Prop where
  ipTaskEvents : w'.ipTaskEvents = w.ipTaskEvents ++ [b]
  released : w'.released = w.released
  baseSockets : w'.baseSockets = w.baseSockets

/-- A received frame becomes an item, and the item goes to the IP task when the bound sockets are `tsn` and `udp`. -/
def ReachesIPTask (cfg : Config) (w : World) (b : BufId) (tsn : List (UInt16 × Addr)) (udp : List (UInt16 × SockId)) :
    Prop :=
  ∃ xItem w₁, (prvHandleReceive b).run w = .ok (some xItem) w₁ ∧ ∀ w₂ xUsingIPTask, Later b xItem w₁ w₂ →
    w₂.xTSNBoundUDPSocketList = tsn → w₂.xBoundUDPSocketsList = udp → (∀ n, w₂.env.xSendEventStructToIPTask n = true) →
      ∃ w₃, (prvDeliverFrame cfg xItem xUsingIPTask).run w₂ = .ok () w₃ ∧ Forwarded b w₂ w₃

/-! ## Receiving from a socket -/

/-- Error messages refer to no frame. -/
structure ErrorsOk (w : World) (q : QueueHandle) : Prop where
  noVector : ∀ e ∈ w.errQueues q, ∃ m, w.heap e = some (.msghdr m) ∧ m.msgIov = none
  once : (w.errQueues q).Nodup

/-- A TSN socket between two calls: each packet that waits refers to its message, and the message to the frame. -/
structure TsnSocketOk (w : World) (t : Addr) (s : TSNSocket) (x : BaseSocket) : Prop where
  heapOk : HeapOk w
  socket : w.heap t = some (.tsnSocket s)
  base : w.baseSockets s.xBaseSocket = some x
  waiting : ∀ b ∈ x.xWaitingPacketsList, ∃ a m i n, (w.bufs b).pucEthernetBuffer = .blk a ∧ Carries w a b m i n
  errors : ErrorsOk w s.xErrQueue

/-- Calls of `FreeRTOS_TSN_recvmsg` with the same flags. -/
def prvPeeks (xSocket : Addr) (xFlags : Nat) : List (Option UserMsghdr) → M Unit
  | [] => return ()
  | u :: us => do
      let _ ← freeRtosTsnRecvmsg xSocket u xFlags
      prvPeeks xSocket xFlags us

/-- The message in the block `a`, if there is one, and its parts are the same. -/
def SameMsghdr (a : Addr) (w w' : World) : Prop :=
  ∀ m, w.heap a = some (.msghdr m) →
    w'.heap a = some (.msghdr m) ∧ ∀ p y, part m p = some y → w'.heap y = w.heap y

/-- What waits for a socket is the same: the packets in `bs` and the messages in the error queue `q`. -/
structure WaitingSame (bs : List BufId) (q : QueueHandle) (w w' : World) : Prop where
  baseSockets : w'.baseSockets = w.baseSockets
  errQueues : w'.errQueues = w.errQueues
  bufs : w'.bufs = w.bufs
  mem : w'.mem = w.mem
  released : w'.released = w.released
  packets : ∀ b ∈ bs, ∀ a, (w.bufs b).pucEthernetBuffer = .blk a → SameMsghdr a w w'
  errors : ∀ a ∈ w.errQueues q, SameMsghdr a w w'

/-- The first packet that waited was released, and its message freed, exactly once; nothing was freed twice. -/
structure TakenOnce (x : BaseSocket) (w w' : World) : Prop where
  releases : ∀ b ∈ x.xWaitingPacketsList.head?, releases w' b = releases w b + 1
  freed : ∀ b ∈ x.xWaitingPacketsList.head?, ∀ a, (w.bufs b).pucEthernetBuffer = .blk a → w'.freed.count a = 1
  freedOnce : w'.freed.Nodup

/-- A receive that finds a packet to take when one waits. -/
def TakesPacket (x : BaseSocket) (u : Option UserMsghdr) (xFlags : Nat) : Prop :=
  x.bBound = true ∧ u ≠ none ∧ hasFlag xFlags freertosMsgErrqueue = false

/-- The calls only observe: a receive after them, from the list or from the error queue, ends as it would without them,
and releases and frees what it would. -/
def PeeksObserve (t : Addr) (s : TSNSocket) (x : BaseSocket) (xFlags : Nat) (us : List (Option UserMsghdr)) (w : World) :
    Prop :=
  ∃ w₁, (prvPeeks t xFlags us).run w = .ok () w₁ ∧ WaitingSame x.xWaitingPacketsList s.xErrQueue w w₁ ∧
    ∀ u xFlags' r w₂, hasFlag xFlags' freertosMsgPeek = false → (freeRtosTsnRecvmsg t u xFlags').run w = .ok r w₂ →
      ∃ w₃, (freeRtosTsnRecvmsg t u xFlags').run w₁ = .ok r w₃ ∧ w₃.released = w₂.released ∧ w₃.freed = w₂.freed ∧
        (TakesPacket x u xFlags' → TakenOnce x w w₃)

/-! ## Datagrams -/

/-- A socket without tags accepted a datagram, whose frame is in `b` now, in some queue. -/
structure SentAs (cfg : Config) (t : Addr) (p : List UInt8) (dest : Destination) (b : BufId) (w w' : World) : Prop where
  socket : ∃ s, w.heap t = some (.tsnSocket s) ∧ socketTagSize cfg s = 0
  accepted : (freeRtosTsnSendto cfg t p (some dest)).run w = .ok p.length w'
  queued : ∃ q, w'.queues q = w.queues q ++ [⟨.eNetworkTxEvent, some b, none, true⟩]

/-- A TSN socket is bound to the port. -/
structure BoundTo (w : World) (usPort : UInt16) (t : Addr) (s : TSNSocket) : Prop where
  nonzero : usPort ≠ 0
  listed : prvLookup usPort w.xTSNBoundUDPSocketList = some t
  socket : w.heap t = some (.tsnSocket s)

/-- Other code ran, but not on the frame in `b` nor on its message. -/
structure LeftAlone (b : BufId) (pxMsgh : Option Addr) (w w' : World) : Prop where
  bufs : w'.bufs b = w.bufs b
  mem : w'.mem b = w.mem b
  msghdr : ∀ a m, pxMsgh = some a → w.heap a = some (.msghdr m) →
    w'.heap a = some (.msghdr m) ∧ ∀ y, m.msgIov = some y → w'.heap y = w.heap y

/-- A received frame becomes an item, which a queue takes, and is delivered when a TSN socket is bound to its port. -/
inductive Passage (cfg : Config) (usPort : UInt16) (t : Addr) (s : TSNSocket) (b : BufId) : World → World → Prop
  | mk {v v₁ v₂ v₃ v₄ v₅ : World} {xItem : NetworkQueueItem} {uxTimeout : Nat} {xUsingIPTask : Bool}
      (hbound : BoundTo v usPort t s) (hreceive : (prvHandleReceive b).run v = .ok (some xItem) v₁)
      (hqueue : (exec cfg (xNetworkQueueInsertPacketByFilter cfg xItem uxTimeout)).run v₁ = .ok true v₂)
      (hwait : LeftAlone b xItem.pxMsgh v₂ v₃) (hbound₃ : BoundTo v₃ usPort t s)
      (hdeliver : (prvDeliverFrame cfg xItem xUsingIPTask).run v₃ = .ok () v₄)
      (hleft : LeftAlone b xItem.pxMsgh v₄ v₅) : Passage cfg usPort t s b v v₅

/-- The user gets as much of the payload as the buffer holds. -/
def GetsPayload (t : Addr) (p pvBuffer : List UInt8) (xFlags : Nat) (pxSourceAddress : Option (List UInt8)) (w : World) :
    Prop :=
  ∃ u w', (freeRtosTsnRecvfrom t pvBuffer pvBuffer.length xFlags pxSourceAddress).run w =
      .ok ((min pvBuffer.length p.length : Nat), some u) w' ∧
    u.msgIov = some [(copyTo pvBuffer (p.take (min pvBuffer.length p.length)), min pvBuffer.length p.length)]

/-! ## The packets of a socket over a run -/

/-- The buffers and messages that were handed to a socket so far. -/
abbrev Handed := List (BufId × Addr)

/-- The waiting list of a base socket, which is empty when the socket is closed. -/
def waiting (w : World) (k : SockId) : List BufId :=
  match w.baseSockets k with
  | some x => x.xWaitingPacketsList
  | none => []

/-- Other code ran: it left the packets that wait alone, and released none of those that were handed over. -/
structure OthersRan (t : Addr) (s : TSNSocket) (hs : Handed) (w w' : World) : Prop where
  heapOk : HeapOk w'
  socket : w'.heap t = w.heap t
  waiting : waiting w' s.xBaseSocket = waiting w s.xBaseSocket
  bufs : ∀ b ∈ Packet.waiting w s.xBaseSocket, (w'.bufs b).pucEthernetBuffer = (w.bufs b).pucEthernetBuffer
  msghdr : ∀ b ∈ Packet.waiting w s.xBaseSocket, ∀ a m, (w.bufs b).pucEthernetBuffer = .blk a →
    w.heap a = some (.msghdr m) → w'.heap a = some (.msghdr m) ∧ ∀ p y, part m p = some y → w'.heap y = w.heap y
  errors : ErrorsOk w' s.xErrQueue
  released : ∀ e ∈ w'.released, e ∈ w.released ∨ ∀ h ∈ hs, h.1 ≠ e.1
  freed : w.freed <+: w'.freed

/-- One call on the TSN socket at `t`, or a step of other code. Closing is subject to `C`. -/
inductive SocketStep (cfg : Config) (t : Addr) (s : TSNSocket) (C : World → Prop) :
    World × Handed → World × Handed → Prop
  | others {w w' : World} {hs : Handed} (h : OthersRan t s hs w w') : SocketStep cfg t s C (w, hs) (w', hs)
  | receive {w w' : World} {hs : Handed} {xItem : NetworkQueueItem} {b : BufId} {a i : Addr} {m : Msghdr} {n : Nat}
      (hb : xItem.pxBuf = some b) (ha : xItem.pxMsgh = some a) (hc : Carries w a b m i n)
      (hp : (w.bufs b).pucEthernetBuffer = .eth b 0) (hnew : ∀ h ∈ hs, h.1 ≠ b) (hlive : ∀ e ∈ w.released, e.1 ≠ b)
      (hrun : (prvReceiveUDPPacketTSN cfg xItem t s.xBaseSocket).run w = .ok () w') :
      SocketStep cfg t s C (w, hs) (w', (b, a) :: hs)
  | recvmsg {w w' : World} {hs : Handed} {u : Option UserMsghdr} {xFlags : Nat} {r : Int × Option UserMsghdr}
      (hpeek : hasFlag xFlags freertosMsgPeek = false) (hrun : (freeRtosTsnRecvmsg t u xFlags).run w = .ok r w') :
      SocketStep cfg t s C (w, hs) (w', hs)
  | closesocket {w w' : World} {hs : Handed} (hC : C w) (hrun : (freeRtosTsnClosesocket t).run w = .ok () w') :
      SocketStep cfg t s C (w, hs) (w', hs)

/-- No packet is lost when the socket is closed. -/
def NoneWaiting (k : SockId) (w : World) : Prop := waiting w k = []

/-- A TSN socket to which no packet was handed yet. -/
structure SocketStart (t : Addr) (s : TSNSocket) (w : World) : Prop where
  heapOk : HeapOk w
  socket : w.heap t = some (.tsnSocket s)
  waiting : waiting w s.xBaseSocket = []
  errors : ErrorsOk w s.xErrQueue

/-- A packet that waits refers to its message and the message to its frame; what was released has its Ethernet buffer
again, and its message was freed once. -/
structure PacketsOk (k : SockId) (w : World) (hs : Handed) : Prop where
  waiting : ∀ b ∈ waiting w k, ∃ a m i n, (b, a) ∈ hs ∧ (w.bufs b).pucEthernetBuffer = .blk a ∧ Carries w a b m i n
  released : ∀ b a p, (b, a) ∈ hs → (b, p) ∈ w.released → p = .eth b 0 ∧ w.freed.count a = 1

/-! ## Items in flight -/

/-- The item for the controller. -/
def rxItem (b : BufId) (pxMsgh : Option Addr) : NetworkQueueItem := ⟨.eNetworkRxEvent, some b, pxMsgh, true⟩

/-- The socket wants the time of reception. -/
def rxTimestamps (w : World) (s : TSNSocket) : Bool :=
  hasFlag s.ulTSFlags sofTimestampingRxSoftware && w.xTimebaseState == .eTimebaseEnabled

/-- The number of the call that allocates the vector of a frame's message. -/
def iovecCall (w : World) (s : TSNSocket) (f : ParsedFrame) : Nat :=
  w.calls + 1 + (if rxTimestamps w s then 1 else 0) +
    if f.usFrameType = ipIPv4FrameType ∨ f.usFrameType = ipIPv6FrameType then 1 else 0

/-- A frame that `prvDeliverFrame` does not ignore. -/
structure Deliverable (w : World) (b : BufId) : Prop where
  pucEthernetBuffer : (w.bufs b).pucEthernetBuffer = .eth b 0
  pxInterface : (w.bufs b).pxInterface ≠ none
  pxEndPoint : (w.bufs b).pxEndPoint ≠ none
  xDataLength : ipSizeOfEthHeader ≤ (w.bufs b).xDataLength

/-- The protocol that the delivery sees; `none` is an IPv4 frame without room for its header. -/
def inspected (w : World) (b : BufId) : Option UInt8 :=
  if (w.mem b).load16 ethFrameType = ipIPv4FrameType then
    if (w.bufs b).xDataLength < sizeOfIPPacket then none else some (protocolOf (w.mem b))
  else some 0

/-- A TSN socket gets the frame if it is delivered now. -/
def ForTsnSocket (w : World) (b : BufId) : Prop :=
  Deliverable w b ∧ inspected w b ≠ none ∧ prvLookup (w.bufs b).usBoundPort w.xTSNBoundUDPSocketList ≠ none

/-- What `prvReceiveUDPPacketTSN` asks of an item: its message has a vector, which starts with the frame. -/
def ItemOk (w : World) (b : BufId) (pxMsgh : Option Addr) : Prop :=
  ∃ a m i v vs, pxMsgh = some a ∧ w.heap a = some (.msghdr m) ∧ m.msgIov = some i ∧
    w.heap i = some (.iovec (v :: vs)) ∧ v.iovBase = (w.bufs b).pucEthernetBuffer

/-- No assertion fails and nothing null is dereferenced when the item is delivered. -/
def DeliversWell (cfg : Config) (w : World) (b : BufId) (pxMsgh : Option Addr) : Prop :=
  (ForTsnSocket w b → ItemOk w b pxMsgh) ∧
    ∀ xUsingIPTask, ∃ w', (prvDeliverFrame cfg (rxItem b pxMsgh) xUsingIPTask).run w = .ok () w'

/-- The reception of the frame ends. -/
def ReceivesWell (w : World) (b : BufId) : Prop := ∃ r w', (prvHandleReceive b).run w = .ok r w'

/-- What the parser reports of the frame. -/
def Parses (w : World) (b : BufId) (f : ParsedFrame) : Prop := ∃ w', (prvParseFrame b).run w = .ok f w'

/-- There is memory for the message if the frame is for a TSN socket. -/
def HasMsgh (w : World) (f : ParsedFrame) : Prop :=
  f.usDestinationPort ≠ 0 → prvLookup f.usDestinationPort w.xTSNBoundUDPSocketList ≠ none →
    w.env.pvPortMalloc w.calls = true

/-- The frame is for a TSN socket, and there is memory for the vector of its message. -/
def hasVector (w : World) (f : ParsedFrame) : Bool :=
  f.usDestinationPort != 0 &&
    match (prvLookup f.usDestinationPort w.xTSNBoundUDPSocketList).bind w.heap with
    | some (.tsnSocket s) => w.env.pvPortMalloc (iovecCall w s f)
    | _ => false

/-- An item between its reception and its delivery, with what was known at its reception. -/
structure Flight where
  pxMsgh : Option Addr
  bVector : Bool

/-- How far `FreeRTOS_TSN_bind` or `FreeRTOS_TSN_closesocket` is with a socket. -/
inductive SocketPhase
  | unbound
  | binding
  | listed
  | closing
  | closed
  deriving DecidableEq, Repr

structure Node where
  w : World
  inFlight : BufId → Option Flight
  phase : Addr → SocketPhase

/-- The driver has a frame in a buffer of its own. -/
def arrived (w : World) (b : BufId) (d : NetworkBufferDescriptor) (m : Mem) : World :=
  (w.setBuf b { d with pucEthernetBuffer := .eth b 0 }).setMem b m

/-- Receptions, deliveries and the halves of bind and close, in any order; `socks` are the TSN sockets. An item that
no queue takes is dropped. -/
inductive NodeStep (cfg : Config) (socks : Addr → Option TSNSocket) : Node → Node → Prop
  | receive {N : Node} {b : BufId} {d : NetworkBufferDescriptor} {m : Mem} {f : ParsedFrame}
      {r : Option NetworkQueueItem} {w' : World} (hb : N.inFlight b = none) (hf : Parses (arrived N.w b d m) b f)
      (hrun : (prvHandleReceive b).run (arrived N.w b d m) = .ok r w') :
      NodeStep cfg socks N
        ⟨w', Function.update N.inFlight b (r.map fun xItem => ⟨xItem.pxMsgh, hasVector (arrived N.w b d m) f⟩), N.phase⟩
  | drop {N : Node} {b : BufId} : NodeStep cfg socks N { N with inFlight := Function.update N.inFlight b none }
  | deliver {N : Node} {b : BufId} {x : Flight} {xUsingIPTask : Bool} {w' : World} (hb : N.inFlight b = some x)
      (hrun : (prvDeliverFrame cfg (rxItem b x.pxMsgh) xUsingIPTask).run N.w = .ok () w') :
      NodeStep cfg socks N ⟨w', Function.update N.inFlight b none, N.phase⟩
  | bindBase {N : Node} {t : Addr} {s : TSNSocket} {sinPort : UInt16} {bOk : Bool} {w' : World}
      (ht : socks t = some s) (hrun : (freeRtosBind s.xBaseSocket sinPort).run N.w = .ok bOk w') :
      NodeStep cfg socks N ⟨w', N.inFlight, if bOk then Function.update N.phase t .binding else N.phase⟩
  | bindList {N : Node} {t : Addr} {w' : World} (hp : N.phase t = .binding)
      (hrun : (vTsnSocketInsert t).run N.w = .ok () w') :
      NodeStep cfg socks N ⟨w', N.inFlight, Function.update N.phase t .listed⟩
  | closeList {N : Node} {t : Addr} {w' : World} (hrun : (vTsnSocketRemove t).run N.w = .ok () w') :
      NodeStep cfg socks N ⟨w', N.inFlight, Function.update N.phase t .closing⟩
  | closeBase {N : Node} {t : Addr} {s : TSNSocket} {w' : World} (ht : socks t = some s) (hp : N.phase t = .closing)
      (hrun : (freeRtosClosesocket s.xBaseSocket).run N.w = .ok () w') :
      NodeStep cfg socks N ⟨w', N.inFlight, Function.update N.phase t .closed⟩

/-- The sockets are created, each with a base socket of its own, and nothing is in flight. -/
structure NodeStart (socks : Addr → Option TSNSocket) (N : Node) : Prop where
  heapOk : HeapOk N.w
  timebase : TimebaseOk N.w
  sockets : ∀ t s, socks t = some s → N.w.heap t = some (.tsnSocket s)
  own : ∀ t t' s s', socks t = some s → socks t' = some s' → s.xBaseSocket = s'.xBaseSocket → t = t'
  tsn : N.w.xTSNBoundUDPSocketList = []
  inFlight : ∀ b, N.inFlight b = none
  phase : ∀ t, N.phase t = .unbound

/-- Every reception ends, and every item in flight can be delivered. -/
def NodeOk (cfg : Config) (N : Node) : Prop :=
  (∀ b d m, N.inFlight b = none → ReceivesWell (arrived N.w b d m) b) ∧
    ∀ b x, N.inFlight b = some x → DeliversWell cfg N.w b x.pxMsgh

end FreeRtosTsn.Packet
