import FreeRtosTsn.Packet.Sockets

/-!
# The network interface wrapper

NetworkWrapper.c: the interface that +TCP sees in place of the driver's. The fields of a received frame are read at
the offsets of an untagged one, after its tags were removed.
-/

namespace FreeRtosTsn.Packet

open Lib Kernel Scheduler

/-! ## Tags -/

def prvInsertVLANTag (pxBuf : BufId) (usTCI usTPID : UInt16) : M (Option BufId) := do
  let uxNewSize := wrap32 ((← loadBuf pxBuf).xDataLength + vlanTagSize)
  match ← pxResizeNetworkBufferWithDescriptor pxBuf uxNewSize with
  | none =>
      vReleaseNetworkBufferAndDescriptor pxBuf
      return none
  | some pxNewBuf =>
      modifyBuf pxNewBuf fun d => { d with xDataLength := uxNewSize }
      let pucBuffer := (← loadBuf pxNewBuf).pucEthernetBuffer
      -- The length is read through the old pointer, after it was set through the new one.
      let uxLength := (← loadBuf pxBuf).xDataLength
      moveBytes pucBuffer (ethFrameType + vlanTagSize) ethFrameType (sub32 uxLength ethFrameType)
      writeBytes pucBuffer ethFrameType (bytes16 (swap16 usTPID))
      writeBytes pucBuffer (ethFrameType + 2) (bytes16 (swap16 usTCI))
      return some pxNewBuf

/-- The tags that the wrapper inserts on an interface. -/
def uxInsertedTags (cfg : Config) (c : NetworkInterfaceConfig) : Nat :=
  if cfg.tsnconfigWrapperInsertsVlanTags then min c.xNumTags 2 else 0

/-- The customer tag, then the service tag. False when a buffer could not be resized. -/
def prvInsertInterfaceTags (cfg : Config) (c : NetworkInterfaceConfig) (pxBuffer : BufId) : M Bool := do
  if cfg.tsnconfigWrapperInsertsVlanTags then
    if c.xNumTags ≥ 1 then
      match ← prvInsertVLANTag pxBuffer c.usVLANTag vlantagTpidDefault with
      | none => return false
      | some pxNewBuffer =>
          if c.xNumTags ≥ 2 then
            match ← prvInsertVLANTag pxNewBuffer c.usServiceVLANTag vlantagTpidDoubleTag with
            | none => return false
            | some _ => return true
  return true

/-- `prvStripVLANTag`: the number of tags, and what was stored for the customer and the service tag. -/
structure StrippedTags where
  uxNumTags : Nat
  usVLANTCI : Option UInt16
  usVLANServiceTCI : Option UInt16
  deriving DecidableEq, Repr

/-- The offset of the TCI of the tag with this index. -/
def tagTci (i : Nat) : Nat := ethFrameType + vlanTagSize * i + 2

def prvRemoveTags (pxBuf : BufId) (uxNumTags : Nat) : M Unit := do
  let uxTagSize := uxNumTags * vlanTagSize
  let d ← loadBuf pxBuf
  moveBytes d.pucEthernetBuffer ethFrameType (ethFrameType + uxTagSize)
    (sub32 (sub32 d.xDataLength uxTagSize) ethFrameType)
  modifyBuf pxBuf fun d => { d with xDataLength := sub32 d.xDataLength uxTagSize }

def prvStripVLANTag (pxBuf : BufId) : M StrippedTags := do
  let uxNumTags ← ucGetNumberOfTags pxBuf
  let p := (← loadBuf pxBuf).pucEthernetBuffer
  match uxNumTags with
  | 0 => return ⟨0, none, none⟩
  | 1 =>
      let usVLANTCI ← load16 p (tagTci 0)
      prvRemoveTags pxBuf 1
      return ⟨1, some usVLANTCI, none⟩
  | n =>
      let usVLANServiceTCI ← load16 p (tagTci 0)
      let usVLANTCI ← load16 p (tagTci 1)
      prvRemoveTags pxBuf n
      return ⟨n, some usVLANTCI, some usVLANServiceTCI⟩

/-! ## Timestamps -/

def sofTimestampingTxSoftware : Nat := 2
def sofTimestampingRxSoftware : Nat := 8

def freertosSolSocket : UInt32 := 1
def freertosScmTimestamping : UInt32 := 37

/-- `vTimestampAcquireSoftware`, through the timebase of the user. -/
def vTimestampAcquireSoftware : M Timespec := do
  let w ← get
  if !w.bTimebaseHandleSet then
    throw .null
  return w.env.fnGetTime w.calls

/-- `struct freertos_scm_timestamping`: the second and the third timestamp are zero. -/
def scmTimestamping (ts : Timespec) : List UInt8 :=
  bytes32 ts.tvSec ++ bytes32 ts.tvNsec ++ List.replicate 16 0

def prvClearControl (pxMsgh : Addr) : M Unit := do
  let m ← loadMsghdr pxMsgh
  storeMsghdr pxMsgh { m with msgControl := none, msgControllen := 0 }

/-- The number of control messages. -/
def prvAncillaryMsgControlFillForRx (pxMsgh pxTSNSocket : Addr) : M Nat := do
  let s ← loadTsnSocket pxTSNSocket
  if hasFlag s.ulTSFlags sofTimestampingRxSoftware && (← get).xTimebaseState == .eTimebaseEnabled then
    let ts ← vTimestampAcquireSoftware
    if ← xAncillaryMsgControlFill pxMsgh [⟨freertosSolSocket, freertosScmTimestamping, scmTimestamping ts⟩] then
      return 1
    else
      return 0
  else
    prvClearControl pxMsgh
    return 0

/-- The control message of a sent frame: level and type by the family, and a `struct sock_extended_err`. -/
def sockExtendedErr (bIsIPv6 : Bool) : ControlMsg where
  cmsgLevel := if bIsIPv6 then 41 else 0
  cmsgType := if bIsIPv6 then 25 else 11
  data := bytes32 42 ++ [4, 0, 0, 0] ++ bytes32 0 ++ bytes32 0

def prvAncillaryMsgControlFillForTx (pxMsgh pxTSNSocket : Addr) : M Nat := do
  let s ← loadTsnSocket pxTSNSocket
  if hasFlag s.ulTSFlags sofTimestampingTxSoftware then
    let x ← loadBaseSocket s.xBaseSocket
    let ts ← vTimestampAcquireSoftware
    if ← xAncillaryMsgControlFill pxMsgh
        [sockExtendedErr x.bIsIPv6, ⟨freertosSolSocket, freertosScmTimestamping, scmTimestamping ts⟩] then
      let m ← loadMsghdr pxMsgh
      storeMsghdr pxMsgh { m with msgFlags := m.msgFlags ||| freertosMsgErrqueue }
      return 2
    else
      return 0
  else
    prvClearControl pxMsgh
    return 0

/-! ## Sending -/

/-- The timestamp of a sent frame goes to the error queue of its socket. -/
def prvReportSent (cfg : Config) (pxTSNSocket : Addr) : M Unit := do
  let pxMsgh ← pxAncillaryMsgMalloc
  if (← prvAncillaryMsgControlFillForTx pxMsgh pxTSNSocket) > 0 then
    let _ ← xAncillaryMsgFillName pxMsgh none 0 0
    let _ ← xSocketErrorQueueInsert cfg pxTSNSocket pxMsgh
  else
    vAncillaryMsgFree pxMsgh

/-- What follows a frame that the driver took. -/
def prvTimestampSent (cfg : Config) (pxBuffer : BufId) : M Unit := do
  let (_, xTSNSocket) ← vSocketFromPort (← loadBuf pxBuffer).usBoundPort
  match xTSNSocket with
  | some pxTSNSocket => prvReportSent cfg pxTSNSocket
  | none => return ()

/-- The controller passes the frame to the driver. -/
def prvOutputFromController (cfg : Config) (pxInterface : IfaceId) (pxBuffer : BufId) (bReleaseAfterSend : Bool) :
    M Bool := do
  if !(← prvInsertInterfaceTags cfg ((← get).interfaces pxInterface) pxBuffer) then
    return false
  if !(← xMacNetworkInterfaceOutput pxBuffer bReleaseAfterSend) then
    return false
  prvTimestampSent cfg pxBuffer
  return true

def xTsnNetworkInterfaceOutput (cfg : Config) (pxInterface : IfaceId) (pxBuffer : BufId) (bReleaseAfterSend : Bool) :
    M Bool := do
  if (← get).bCallingFromController then
    prvOutputFromController cfg pxInterface pxBuffer bReleaseAfterSend
  else
    exec cfg (xNetworkQueueInsertPacketByFilter cfg ⟨.eNetworkTxEvent, some pxBuffer, none, bReleaseAfterSend⟩
      cfg.tsnconfigDefaultQueueTimeout)

/-! ## Receiving -/

/-- What the wrapper reads in the header of the network layer: the protocol, the destination, and the offset of the
next header. -/
def prvParseNetwork (p : Ptr) (usFrameType : UInt16) : M (UInt8 × IPAddress × Nat) := do
  if usFrameType = ipIPv4FrameType then
    let ucProtocol ← load8 p (ipSizeOfEthHeader + 9)
    let ulDestination ← load32 p (ipSizeOfEthHeader + 16)
    return (ucProtocol, .ipv4 ulDestination, ipSizeOfEthHeader + ipSizeOfIPv4Header)
  else if usFrameType = ipIPv6FrameType then
    let ucProtocol ← load8 p (ipSizeOfEthHeader + 6)
    let xDestination ← readBytes (p.add (ipSizeOfEthHeader + 24)) 16
    return (ucProtocol, .ipv6 xDestination, ipSizeOfEthHeader + ipSizeOfIPv6Header)
  else
    return (255, .ipv4 0, ipSizeOfEthHeader)

/-- The destination and the source port of UDP and TCP; zero for the others. -/
def prvParsePorts (p : Ptr) (ucProtocol : UInt8) (uxPrefix : Nat) : M (UInt16 × UInt16) := do
  if ucProtocol = ipProtocolUdp ∨ ucProtocol = ipProtocolTcp then
    let usDestinationPort ← load16 p (uxPrefix + 2)
    let usSourcePort ← load16 p uxPrefix
    return (usDestinationPort, usSourcePort)
  else
    return (0, 0)

/-- What the wrapper learns about a frame. -/
structure ParsedFrame where
  usFrameType : UInt16
  xDestinationAddr : IPAddress
  usDestinationPort : UInt16
  deriving DecidableEq, Repr

/-- The first part of `prvHandleReceive`: the tags are removed and the ports are stored in the descriptor. -/
def prvParseFrame (pxBuf : BufId) : M ParsedFrame := do
  let pucEBuf := (← loadBuf pxBuf).pucEthernetBuffer
  let _ ← prvStripVLANTag pxBuf
  let usFrameType ← load16 pucEBuf ethFrameType
  let (ucProtocol, xDestinationAddr, uxPrefix) ← prvParseNetwork pucEBuf usFrameType
  let (usDestinationPort, usSourcePort) ← prvParsePorts pucEBuf ucProtocol uxPrefix
  modifyBuf pxBuf fun d => { d with usBoundPort := usDestinationPort, usPort := usSourcePort }
  return ⟨usFrameType, xDestinationAddr, usDestinationPort⟩

/-- The name of a received message is the destination of the frame. -/
def prvFillName (pxMsgh : Addr) (f : ParsedFrame) : M Unit := do
  if f.usFrameType = ipIPv4FrameType then
    let _ ← xAncillaryMsgFillName pxMsgh (some f.xDestinationAddr) f.usDestinationPort freertosAfInet
  else if f.usFrameType = ipIPv6FrameType then
    let _ ← xAncillaryMsgFillName pxMsgh (some f.xDestinationAddr) f.usDestinationPort freertosAfInet6

/-- The message of a frame for a TSN socket. The results of the allocations after the first one are not looked at. -/
def prvBuildMsgh (pxBuf : BufId) (pxTSNSocket : Addr) (f : ParsedFrame) : M Addr := do
  let pxMsgh ← pxAncillaryMsgMalloc
  let _ ← prvAncillaryMsgControlFillForRx pxMsgh pxTSNSocket
  prvFillName pxMsgh f
  let d ← loadBuf pxBuf
  let _ ← xAncillaryMsgFillPayload pxMsgh d.pucEthernetBuffer d.xDataLength
  return pxMsgh

/-- The message of a received frame; the outer `none` is a frame that is not wanted. -/
def prvMsghFor (pxBuf : BufId) (f : ParsedFrame) : M (Option (Option Addr)) := do
  if f.usDestinationPort = 0 then
    return some none
  match ← vSocketFromPort f.usDestinationPort with
  | (_, some pxTSNSocket) => return some (some (← prvBuildMsgh pxBuf pxTSNSocket f))
  | (some _, none) => return some none
  | (none, none) => return none

/-- The item is returned by value; its block is never freed. -/
def prvHandleReceive (pxBuf : BufId) : M (Option NetworkQueueItem) := do
  let f ← prvParseFrame pxBuf
  match ← prvMsghFor pxBuf f with
  | none => return none
  | some pxMsgh =>
      let xItem : NetworkQueueItem := ⟨.eNetworkRxEvent, some pxBuf, pxMsgh, true⟩
      match ← pvPortMalloc (.item xItem) with
      | none => return none
      | some _ => return some xItem

/-- The counterpart of `xSendEventStructToIPTask`, called by the driver for a received frame. -/
def xSendEventStructToTsnController (cfg : Config) (eEventType : IPEvent) (pvData : BufId) (uxTimeout : Nat) :
    M Bool := do
  if eEventType = .eNetworkRxEvent then
    match ← prvHandleReceive pvData with
    | none => return false
    | some pxItem => exec cfg (xNetworkQueueInsertPacketByFilter cfg pxItem uxTimeout)
  else
    xSendEventStructToIPTask pvData

end FreeRtosTsn.Packet
