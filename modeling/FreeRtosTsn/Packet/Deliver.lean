import FreeRtosTsn.Packet.Wrapper

/-!
# Delivery

What the controller does with an item that it popped: FreeRTOS_TSN_Controller.c.
-/

namespace FreeRtosTsn.Packet

open Lib Kernel Scheduler

/-- The end of the IPv4 header. -/
def sizeOfIPPacket : Nat := ipSizeOfEthHeader + ipSizeOfIPv4Header

def configAssert (b : Bool) : M Unit := if b then return () else throw .assert

/-- Makes `pucEthernetBuffer` point to the message, and appends the descriptor to the waiting list. -/
def prvWaitForUser (b : BufId) (pxMsgh : Addr) (xBaseSocket : SockId) : M Unit := do
  modifyBuf b fun d => { d with pucEthernetBuffer := .blk pxMsgh }
  let x ← loadBaseSocket xBaseSocket
  storeBaseSocket xBaseSocket { x with xWaitingPacketsList := x.xWaitingPacketsList ++ [b] }

def prvReceiveUDPPacketTSN (cfg : Config) (pxItem : NetworkQueueItem) (xTSNSocket : Addr) (xBaseSocket : SockId) :
    M Unit := do
  configAssert pxItem.pxMsgh.isSome
  let pxMsgh ← deref pxItem.pxMsgh
  let m ← loadMsghdr pxMsgh
  if hasFlag m.msgFlags freertosMsgErrqueue then
    vReleaseNotNull pxItem.pxBuf
    let _ ← xSocketErrorQueueInsert cfg xTSNSocket pxMsgh
  else
    let iovBase ← prvIovBase pxMsgh
    let b ← deref pxItem.pxBuf
    configAssert (iovBase == (← loadBuf b).pucEthernetBuffer)
    prvWaitForUser b pxMsgh xBaseSocket

/-- Hands the frame to the IP task, or releases it. -/
def prvToIPTask (b : BufId) : M Unit := do
  if !(← xSendEventStructToIPTask b) then
    vReleaseNetworkBufferAndDescriptor b

/-- The protocol of an IPv4 frame, whose source address is stored in the descriptor, and 0 for other frames; `none` is
a frame that is too short. The code that removes tags inserted by sockets does not compile. -/
def prvInspectFrame (b : BufId) : M (Option UInt8) := do
  let d ← loadBuf b
  let usFrameType ← load16 d.pucEthernetBuffer ethFrameType
  if usFrameType = ipIPv4FrameType then
    if d.xDataLength < sizeOfIPPacket then
      return none
    let ulSource ← load32 d.pucEthernetBuffer (ipSizeOfEthHeader + 12)
    modifyBuf b fun d => { d with xIPAddress := .ipv4 ulSource }
    let ucProto ← load8 d.pucEthernetBuffer (ipSizeOfEthHeader + 9)
    return some ucProto
  else
    return some 0

/-- The frame is for a socket of +TCP. -/
def prvDeliverToPlainSocket (pxItem : NetworkQueueItem) (b : BufId) (ucProto : UInt8) (xUsingIPTask : Bool) :
    M Unit := do
  vFreeAllNotNull pxItem.pxMsgh
  if xUsingIPTask || ucProto != ipProtocolUdp then
    prvToIPTask b
  else if !(← xProcessReceivedUDPPacket b) then
    vReleaseNetworkBufferAndDescriptor b

/-- The frame goes to the socket that is bound to its port now. -/
def prvDispatchFrame (cfg : Config) (pxItem : NetworkQueueItem) (b : BufId) (ucProto : UInt8) (xUsingIPTask : Bool) :
    M Unit := do
  match ← vSocketFromPort (← loadBuf b).usBoundPort with
  | (xBaseSocket, some xTSNSocket) => prvReceiveUDPPacketTSN cfg pxItem xTSNSocket (← deref xBaseSocket)
  | (some _, none) => prvDeliverToPlainSocket pxItem b ucProto xUsingIPTask
  | (none, none) => prvToIPTask b

def prvDeliverFrame (cfg : Config) (pxItem : NetworkQueueItem) (xUsingIPTask : Bool) : M Unit := do
  match pxItem.pxBuf with
  | none => return ()
  | some b =>
      let d ← loadBuf b
      if d.pxInterface.isNone || d.pxEndPoint.isNone || d.xDataLength < ipSizeOfEthHeader then
        return ()
      match ← prvInspectFrame b with
      | none => vReleaseNetworkBufferAndDescriptor b
      | some ucProto => prvDispatchFrame cfg pxItem b ucProto xUsingIPTask

/-- The body of the controller's loop for an item that was popped from `pxQueue`. -/
def prvServeItem (cfg : Config) (pxQueue : NetworkQueue) (xItem : NetworkQueueItem) : M Unit := do
  if xItem.eEventType = .eNetworkTxEvent then
    let b ← deref xItem.pxBuf
    let pxEndPoint ← deref (← loadBuf b).pxEndPoint
    let pxInterface := ((← get).endPoints pxEndPoint).pxNetworkInterface
    vFreeAllNotNull xItem.pxMsgh
    let _ ← xTsnNetworkInterfaceOutput cfg pxInterface b xItem.xReleaseAfterSend
  else
    prvDeliverFrame cfg xItem (pxQueue.ePolicy == .eIPTaskEvents)

end FreeRtosTsn.Packet
