import FreeRtosTsn.Packet.Ancillary
import FreeRtosTsn.Scheduler.Queue

/-!
# TSN sockets

FreeRTOS_TSN_Sockets.c. A call is atomic: a receive that waits is one made when the packet is there.
-/

namespace FreeRtosTsn.Packet

open Lib Kernel Scheduler

/-! ## Constants -/

def freertosAfInet : UInt8 := 2
def freertosAfInet6 : UInt8 := 10

def freertosMsgPeek : Nat := 4
def freertosMsgErrqueue : Nat := 16384

def errnoEbadf : Int := 9
def errnoEagain : Int := 11
def errnoEinval : Int := 22
def errnoEtimedout : Int := 116

/-- `( xFlags & flag ) != 0` for a flag of one bit. -/
def hasFlag (xFlags flag : Nat) : Bool := xFlags &&& flag != 0

/-! ## Creation and options -/

def freertosSockDgram : Nat := 2

def freertosSoTimestamping : Int := 37
def freertosSoVlanCtagPcp : Int := 101
def freertosSoVlanStagPcp : Int := 102
def freertosSoVlanTagRst : Int := 103
def freertosSoDsClass : Int := 104

/-- A block that was just allocated: its fields are what the memory holds. Pointers have four bytes. Without tags there
are no fields for them, and those behind are closer to the start of the block. -/
def prvJunkSocket (cfg : Config) (junk : Mem) : TSNSocket where
  xBaseSocket := (junk.load32 0).toNat
  xErrQueue := (junk.load32 4).toNat
  ucVLANTagsCount := if cfg.tsnconfigSocketInsertsVlanTags then (junk 8).toNat else 0
  usVLANCTagTCI := if cfg.tsnconfigSocketInsertsVlanTags then junk.load16 10 else 0
  usVLANSTagTCI := if cfg.tsnconfigSocketInsertsVlanTags then junk.load16 12 else 0
  ucDSClass := if cfg.tsnconfigSocketInsertsVlanTags then junk 14 else junk 8
  ulTSFlags := (if cfg.tsnconfigSocketInsertsVlanTags then junk.load32 16 else junk.load32 12).toNat

/-- `FREERTOS_TSN_INVALID_SOCKET` is `none`. The base socket stays when there is no error queue. -/
def freeRtosTsnSocket (cfg : Config) (bIsIPv6 : Bool) (xType : Nat) : M (Option Addr) := do
  if xType ≠ freertosSockDgram then
    return none
  let s := prvJunkSocket cfg (← get).env.junk
  match ← pvPortMalloc (.tsnSocket s) with
  | none => return none
  | some pxSocket =>
      match ← freeRtosSocket bIsIPv6 with
      | none =>
          vPortFree pxSocket
          return none
      | some xBaseSocket =>
          let s := { s with xBaseSocket := xBaseSocket }
          storeBlock pxSocket (.tsnSocket s)
          match ← xQueueCreate with
          | none =>
              vPortFree pxSocket
              return none
          | some xErrQueue =>
              storeBlock pxSocket (.tsnSocket { s with xErrQueue := xErrQueue })
              return some pxSocket

def vlantagSetPcpFromTci (x : UInt16) (value : Int) : UInt16 :=
  (x &&& (0x1FFF : UInt16)) ||| (UInt16.ofNat (value % 8).toNat <<< 13)

/-- No bit of the value is outside of `SOF_TIMESTAMPING_MASK`, which has the lowest 17. -/
def inTimestampingMask (ulOptionValue : Int) : Bool := (ulOptionValue % 2 ^ 32).toNat < 2 ^ 17

/-- The value is signed, and only compared from above. The base socket is valid. -/
def freeRtosTsnSetsockopt (cfg : Config) (xSocket : Addr) (lOptionName ulOptionValue : Int) : M Int := do
  let s ← loadTsnSocket xSocket
  if cfg.tsnconfigSocketInsertsVlanTags ∧ lOptionName = freertosSoVlanCtagPcp then
    if ulOptionValue < 8 then
      storeBlock xSocket (.tsnSocket { s with
        usVLANCTagTCI := vlantagSetPcpFromTci s.usVLANCTagTCI ulOptionValue
        ucVLANTagsCount := if s.ucVLANTagsCount = 0 then 1 else s.ucVLANTagsCount })
      return 0
    else
      return -errnoEinval
  else if cfg.tsnconfigSocketInsertsVlanTags ∧ lOptionName = freertosSoVlanStagPcp then
    if ulOptionValue < 8 then
      storeBlock xSocket (.tsnSocket { s with
        usVLANSTagTCI := vlantagSetPcpFromTci s.usVLANSTagTCI ulOptionValue
        ucVLANTagsCount := 2 })
      return 0
    else
      return -errnoEinval
  else if cfg.tsnconfigSocketInsertsVlanTags ∧ lOptionName = freertosSoVlanTagRst then
    storeBlock xSocket (.tsnSocket { s with ucVLANTagsCount := 0 })
    return 0
  else if lOptionName = freertosSoDsClass then
    if ulOptionValue < 64 then
      storeBlock xSocket (.tsnSocket { s with ucDSClass := UInt8.ofNat (ulOptionValue % 256).toNat })
      return 0
    else
      return -errnoEinval
  else if lOptionName = freertosSoTimestamping then
    if inTimestampingMask ulOptionValue then
      xQueueReset s.xErrQueue
      storeBlock xSocket (.tsnSocket { s with ulTSFlags := (ulOptionValue % 2 ^ 32).toNat })
      return 0
    else
      return errnoEinval
  else
    freeRtosSetsockopt s.xBaseSocket lOptionName ulOptionValue

/-! ## Bound sockets -/

def xSocketErrorQueueInsert (cfg : Config) (xTSNSocket : Addr) (pxMsgh : Addr) : M Bool := do
  let s ← loadTsnSocket xTSNSocket
  let w ← get
  if (w.errQueues s.xErrQueue).length < cfg.tsnconfigErrqueueLength then
    set (w.setErrQueue s.xErrQueue (w.errQueues s.xErrQueue ++ [pxMsgh]))
    return true
  else
    return false

/-- The base socket and the TSN socket that are bound to a port, which is in network byte order. -/
def vSocketFromPort (xSearchKey : UInt16) : M (Option SockId × Option Addr) := do
  match prvLookup xSearchKey (← get).xTSNBoundUDPSocketList with
  | some pxTSNSocket =>
      let s ← loadTsnSocket pxTSNSocket
      return (some s.xBaseSocket, some pxTSNSocket)
  | none => return (← pxUDPSocketLookup xSearchKey, none)

/-- The second step of `FreeRTOS_TSN_bind`. -/
def vTsnSocketInsert (xSocket : Addr) : M Unit := do
  let s ← loadTsnSocket xSocket
  let x ← loadBaseSocket s.xBaseSocket
  modify fun w => w.setTsnBound (w.xTSNBoundUDPSocketList ++ [(swap16 x.usLocalPort, xSocket)])

def freeRtosTsnBind (xSocket : Addr) (sinPort : UInt16) : M Bool := do
  let s ← loadTsnSocket xSocket
  let bOk ← freeRtosBind s.xBaseSocket sinPort
  if bOk then
    vTsnSocketInsert xSocket
  return bOk

/-- The first step of `FreeRTOS_TSN_closesocket`: `uxListRemove` of an item that is in the list. -/
def vTsnSocketRemove (xSocket : Addr) : M Unit := do
  let w ← get
  if w.xTSNBoundUDPSocketList.any fun e => e.2 == xSocket then
    set (w.setTsnBound (w.xTSNBoundUDPSocketList.filter fun e => e.2 != xSocket))
  else
    throw .heap

/-- The block of the TSN socket is not freed. -/
def freeRtosTsnClosesocket (xSocket : Addr) : M Unit := do
  vTsnSocketRemove xSocket
  let s ← loadTsnSocket xSocket
  freeRtosClosesocket s.xBaseSocket

/-! ## Sending -/

def diffservSetDsClassIPv4 (ucValue : UInt8) : UInt8 := ucValue <<< 2

/-- Writes the tags of a socket that inserts them, and the frame type after them. -/
def prvWriteTags (s : TSNSocket) (p : Ptr) : M Bool := do
  match s.ucVLANTagsCount with
  | 0 =>
      writeBytes p 12 (bytes16 ipIPv4FrameType)
      return true
  | 1 =>
      writeBytes p 12 (bytes16 (swap16 vlantagTpidDefault) ++ bytes16 (swap16 s.usVLANCTagTCI) ++
        bytes16 ipIPv4FrameType)
      return true
  | 2 =>
      writeBytes p 12 (bytes16 (swap16 vlantagTpidDoubleTag) ++ bytes16 (swap16 s.usVLANSTagTCI) ++
        bytes16 (swap16 vlantagTpidDefault) ++ bytes16 (swap16 s.usVLANCTagTCI) ++ bytes16 ipIPv4FrameType)
      return true
  | _ => return false

/-- The size of the tags that a socket inserts. -/
def socketTagSize (cfg : Config) (s : TSNSocket) : Nat :=
  if cfg.tsnconfigSocketInsertsVlanTags then vlanTagSize * s.ucVLANTagsCount else 0

/-- The headers of a UDP datagram over IPv4. Both checksums are left to the driver: the code that computes them does
not compile. -/
def prvPrepareBufferUDPv4 (cfg : Config) (s : TSNSocket) (pxBuf : BufId) : M Bool := do
  let d ← loadBuf pxBuf
  let uxVLANOffset := socketTagSize cfg s
  let uxPayloadSize := sub32 (sub32 d.xDataLength 42) uxVLANOffset
  let p := d.pucEthernetBuffer
  writeBytes p 0 (List.replicate 6 0)
  let ulIP := d.xIPAddress.ulIPv4
  match (← get).env.eARPGetCacheEntry ulIP with
  | none => return false
  | some (xDestinationAddress, pxEndPoint) =>
      writeBytes p 0 xDestinationAddress.toList
      modifyBuf pxBuf fun d => { d with pxEndPoint := some pxEndPoint }
      let ep := (← get).endPoints pxEndPoint
      writeBytes p 6 ep.xMACAddress.toList
      let bTagged ←
        if cfg.tsnconfigSocketInsertsVlanTags then
          prvWriteTags s p
        else do
          writeBytes p 12 (bytes16 ipIPv4FrameType)
          pure true
      if !bTagged then
        return false
      let ip := ipSizeOfEthHeader + uxVLANOffset
      writeBytes p ip [0x45]
      writeBytes p (ip + 1) [diffservSetDsClassIPv4 s.ucDSClass]
      writeBytes p (ip + 2) (bytes16 (swap16 (UInt16.ofNat (uxPayloadSize + 28))))
      writeBytes p (ip + 4) (bytes16 0)
      writeBytes p (ip + 6) (bytes16 0)
      writeBytes p (ip + 8) [cfg.ipconfigUdpTimeToLive]
      writeBytes p (ip + 9) [ipProtocolUdp]
      writeBytes p (ip + 12) (bytes32 ep.ulIPAddress)
      writeBytes p (ip + 16) (bytes32 ulIP)
      let udp := ip + ipSizeOfIPv4Header
      writeBytes p (udp + 2) (bytes16 d.usPort)
      writeBytes p udp (bytes16 d.usBoundPort)
      writeBytes p (udp + 4) (bytes16 (swap16 (UInt16.ofNat (uxPayloadSize + 8))))
      writeBytes p (ip + 10) (bytes16 0)
      writeBytes p (udp + 6) (bytes16 0)
      if d.xDataLength < cfg.ipconfigEthernetMinimumPacketBytes then
        writeBytes p d.xDataLength (List.replicate (cfg.ipconfigEthernetMinimumPacketBytes - d.xDataLength) 0)
        modifyBuf pxBuf fun d => { d with xDataLength := cfg.ipconfigEthernetMinimumPacketBytes }
      return true

/-- A destination of a datagram: its family, port and address. -/
structure Destination where
  sinFamily : UInt8
  sinPort : UInt16
  sinAddress : IPAddress

/-- `xTaskCheckForTimeOut` with `xElapsed` ticks since the timeout began: the remaining time, or none. -/
def xTaskCheckForTimeOut (xTicksToWait xElapsed : Nat) : Option Nat :=
  if xTicksToWait = portMaxDelay then some xTicksToWait
  else if xElapsed < xTicksToWait then some (xTicksToWait - xElapsed)
  else none

/-- IPv6 is not supported: its buffer is obtained and released again. -/
def freeRtosTsnSendto (cfg : Config) (xSocket : Addr) (pvBuffer : List UInt8) (pxDestinationAddress : Option Destination) :
    M Int := do
  let s ← loadTsnSocket xSocket
  let x ← loadBaseSocket s.xBaseSocket
  let uxTotalDataLength := pvBuffer.length
  match pxDestinationAddress with
  | none => return -errnoEinval
  | some dest =>
      if !x.bBound then
        return -errnoEbadf
      if dest.sinFamily = freertosAfInet6 then
        let uxPayloadOffset := 62 + socketTagSize cfg s
        match ← pxGetNetworkBufferWithDescriptor (wrap32 (uxTotalDataLength + uxPayloadOffset)) with
        | none => return -errnoEagain
        | some pxBuf =>
            vReleaseNetworkBufferAndDescriptor pxBuf
            return -errnoEagain
      else if dest.sinFamily = freertosAfInet then
        let uxPayloadOffset := 42 + socketTagSize cfg s
        let uxMaxPayloadLength := sub32 cfg.ipconfigNetworkMtu 28
        match ← pxGetNetworkBufferWithDescriptor (wrap32 (uxTotalDataLength + uxPayloadOffset)) with
        | none => return -errnoEagain
        | some pxBuf =>
            modifyBuf pxBuf fun d => { d with
              xDataLength := wrap32 (uxTotalDataLength + uxPayloadOffset)
              pxEndPoint := x.pxEndPoint
              usPort := dest.sinPort
              usBoundPort := swap16 x.usLocalPort
              xIPAddress := .ipv4 dest.sinAddress.ulIPv4 }
            if !(← prvPrepareBufferUDPv4 cfg s pxBuf) then
              vReleaseNetworkBufferAndDescriptor pxBuf
              return -errnoEagain
            if uxTotalDataLength > uxMaxPayloadLength then
              vReleaseNetworkBufferAndDescriptor pxBuf
              return -errnoEinval
            let d ← loadBuf pxBuf
            writeBytes d.pucEthernetBuffer uxPayloadOffset pvBuffer
            let w ← get
            match xTaskCheckForTimeOut x.xSendBlockTime (w.env.uxBlockedTicks w.calls) with
            | some xRemainingTime =>
                if ← exec cfg (xNetworkQueueInsertPacketByFilter cfg ⟨.eNetworkTxEvent, some pxBuf, none, true⟩
                    xRemainingTime) then
                  return uxTotalDataLength
                else
                  vReleaseNetworkBufferAndDescriptor pxBuf
                  return -errnoEagain
            | none =>
                vReleaseNetworkBufferAndDescriptor pxBuf
                return -errnoEtimedout
      else
        return -errnoEinval

/-! ## Receiving -/

/-- The `msghdr` of the user: null pointers are `none`, and the buffers are their contents. -/
structure UserMsghdr where
  msgName : Option (List UInt8)
  msgNamelen : Nat
  msgIov : Option (List (List UInt8 × Nat))
  msgIovlen : Nat
  msgControl : Option (List UInt8)
  msgControllen : Nat
  msgFlags : Nat

/-- The protocol, with what follows the header of the network layer. -/
def prvProtocol (p : Ptr) (usFrameType : UInt16) : M (UInt8 × Nat) := do
  if usFrameType = ipIPv4FrameType then
    return (← load8 p (ipSizeOfEthHeader + 9), ipSizeOfEthHeader + ipSizeOfIPv4Header)
  else if usFrameType = ipIPv6FrameType then
    return (← load8 p (ipSizeOfEthHeader + 6), ipSizeOfEthHeader + ipSizeOfIPv6Header)
  else
    return (255, ipSizeOfEthHeader)

/-- The size is the length field of the UDP header, which counts the header. -/
def prvMoveToStartOfPayload (v : Iovec) : M Iovec := do
  let usFrameType ← load16 v.iovBase ethFrameType
  let (ucProtocol, uxPrefix) ← prvProtocol v.iovBase usFrameType
  if ucProtocol = ipProtocolUdp then
    let usLength ← load16 v.iovBase (uxPrefix + 4)
    return ⟨v.iovBase.add (uxPrefix + ipSizeOfUdpHeader), (swap16 usLength).toNat⟩
  else
    return v

/-- `memcpy` to the start of the bytes `dst`. -/
def copyTo (dst src : List UInt8) : List UInt8 := overwrite dst 0 src

/-- The loop over the elements of the payload; ends with the elements of the user and the bytes copied. -/
def prvCopyPayload : Nat → List (List UInt8 × Nat) → List Iovec → M (List (List UInt8 × Nat) × Nat)
  | 0, us, _ => return (us, 0)
  | _ + 1, [], _ => throw .heap
  | _ + 1, _ :: _, [] => throw .heap
  | n + 1, (dst, iovLen) :: us, v :: vs => do
      let uxLen := min iovLen v.iovLen
      let bs ← readBytes v.iovBase uxLen
      let (us, uxPayloadLen) ← prvCopyPayload n us vs
      return ((copyTo dst bs, uxLen) :: us, uxLen + uxPayloadLen)

def prvCopyName (m : Msghdr) (u : UserMsghdr) : M UserMsghdr := do
  match m.msgName, u.msgName with
  | some a, some dst =>
      let uxLen := min u.msgNamelen m.msgNamelen
      let name ← loadSockaddr a
      return { u with msgName := some (copyTo dst (name.bytes.take uxLen)), msgNamelen := uxLen }
  | _, _ => return { u with msgNamelen := 0 }

/-- Also moves the first element of the message to its payload. -/
def prvCopyIov (m : Msghdr) (u : UserMsghdr) : M (UserMsghdr × Nat) := do
  match m.msgIov, u.msgIov with
  | some a, some us =>
      match ← loadIovec a with
      | [] => throw .heap
      | v :: vs =>
          let v ← prvMoveToStartOfPayload v
          storeIovec a (v :: vs)
          let msgIovlen := min u.msgIovlen m.msgIovlen
          let (us, uxPayloadLen) ← prvCopyPayload msgIovlen us (v :: vs)
          return ({ u with msgIov := some us, msgIovlen := msgIovlen }, uxPayloadLen)
  | _, _ => return ({ u with msgIovlen := 0 }, 0)

def prvCopyControl (m : Msghdr) (u : UserMsghdr) : M UserMsghdr := do
  match u.msgControl, m.msgControl with
  | some dst, some a =>
      let uxLen := min u.msgControllen m.msgControllen
      let bs ← loadControl a
      return { u with msgControl := some (copyTo dst (bs.take uxLen)), msgControllen := uxLen }
  | _, _ => return { u with msgControllen := 0 }

/-- What is done with a message that was taken, and with its network buffer if it has one. -/
def prvTakeMessage (pxMsgh : Addr) (pxNetworkBuffer : Option BufId) (u : UserMsghdr) : M (Int × UserMsghdr) := do
  let m ← loadMsghdr pxMsgh
  let u ← prvCopyName m u
  let (u, uxPayloadLen) ← prvCopyIov m u
  let u ← prvCopyControl m u
  let u := { u with msgFlags := m.msgFlags }
  vAncillaryMsgFreeAll pxMsgh
  vReleaseNotNull pxNetworkBuffer
  return (uxPayloadLen, u)

/-- The message that `pucEthernetBuffer` points to. -/
def msghdrOf : Ptr → M Addr
  | .blk a => return a
  | .eth _ _ => throw .heap

/-- The `iov_base` of the first element of a message. -/
def prvIovBase (pxMsgh : Addr) : M Ptr := do
  let m ← loadMsghdr pxMsgh
  match ← loadIovec (← deref m.msgIov) with
  | [] => throw .heap
  | v :: _ => return v.iovBase

def freeRtosTsnRecvmsg (xSocket : Addr) (pxMsghUser : Option UserMsghdr) (xFlags : Nat) :
    M (Int × Option UserMsghdr) := do
  let s ← loadTsnSocket xSocket
  let x ← loadBaseSocket s.xBaseSocket
  if !x.bBound then
    return (-errnoEinval, pxMsghUser)
  match pxMsghUser with
  | none => return (-errnoEinval, none)
  | some u =>
      if hasFlag xFlags freertosMsgErrqueue then
        let w ← get
        match w.errQueues s.xErrQueue with
        | [] => return (-errnoEagain, some u)
        | pxMsgh :: rest =>
            set (w.setErrQueue s.xErrQueue rest)
            let (r, u) ← prvTakeMessage pxMsgh none u
            return (r, some u)
      else
        match x.xWaitingPacketsList with
        | [] => return (-errnoEagain, some u)
        | b :: rest =>
            if !hasFlag xFlags freertosMsgPeek then
              storeBaseSocket s.xBaseSocket { x with xWaitingPacketsList := rest }
            let pxMsgh ← msghdrOf (← loadBuf b).pucEthernetBuffer
            let pucEthernetBuffer ← prvIovBase pxMsgh
            modifyBuf b fun d => { d with pucEthernetBuffer := pucEthernetBuffer }
            let (r, u) ← prvTakeMessage pxMsgh (some b) u
            return (r, some u)

/-- The flag for the error queue is cleared. -/
def freeRtosTsnRecvfrom (xSocket : Addr) (pvBuffer : List UInt8) (uxBufferLength xFlags : Nat)
    (pxSourceAddress : Option (List UInt8)) : M (Int × Option UserMsghdr) :=
  freeRtosTsnRecvmsg xSocket
    (some ⟨pxSourceAddress, Sockaddr.size, some [(pvBuffer, uxBufferLength)], 1, none, 0, 0⟩)
    (if hasFlag xFlags freertosMsgErrqueue then xFlags - freertosMsgErrqueue else xFlags)

end FreeRtosTsn.Packet
