import FreeRtosTsn.Packet.Sockets

/-!
# The DiffServ class of a frame

FreeRTOS_TSN_DS.c. Frame types are compared as they read on the target.
-/

namespace FreeRtosTsn.Fields

open Lib Kernel Packet

/-- The offsets of `usFrameType` in `TaggedEthernetHeader_t` and `DoubleTaggedEthernetHeader_t`. -/
def taggedFrameType : Nat := ethFrameType + vlanTagSize
def doubleTaggedFrameType : Nat := ethFrameType + 2 * vlanTagSize

def diffservGetDsClassIPv4 (ucDifferentiatedServicesCode : UInt8) : UInt8 := ucDifferentiatedServicesCode >>> 2

def diffservGetDsClassIPv6 (ucVersionTrafficClass ucTrafficClassFlow : UInt8) : UInt8 :=
  ((ucVersionTrafficClass &&& 0xF) <<< 2) ||| ((ucTrafficClassFlow &&& 0xC0) >>> 6)

/-- The two variables of the caller, of which the first keeps the value it has unless there is a tag. -/
def prvGetIPVersionAndOffset (pxBuf : BufId) (usIPVersion : UInt16) : M (UInt16 × Nat) := do
  let p := (← loadBuf pxBuf).pucEthernetBuffer
  let usEthType := swap16 (← load16 p ethFrameType)
  if usEthType = vlantagTpidDoubleTag then
    return (← load16 p doubleTaggedFrameType, ipSizeOfEthHeader + 2 * vlanTagSize)
  else if usEthType = vlantagTpidDefault then
    return (← load16 p taggedFrameType, ipSizeOfEthHeader + vlanTagSize)
  else
    return (usIPVersion, ipSizeOfEthHeader)

/-- `usStack` is what the uninitialised variable `usEtherType` holds. -/
def ucDSClassGet (usStack : UInt16) (pxBuf : BufId) : M UInt8 := do
  let (usEtherType, ulIPHeaderOffset) ← prvGetIPVersionAndOffset pxBuf usStack
  let p := (← loadBuf pxBuf).pucEthernetBuffer
  if usEtherType = ipIPv4FrameType then
    return diffservGetDsClassIPv4 (← load8 p (ulIPHeaderOffset + 1))
  else if usEtherType = ipIPv6FrameType then
    return diffservGetDsClassIPv6 (← load8 p ulIPHeaderOffset) (← load8 p (ulIPHeaderOffset + 1))
  else
    return 0xFF

/-- `diffservSET_DSCLASS_IPv6`: each byte is masked, then filled. -/
def diffservSetDsClassIPv6 (p : Ptr) (ulIPHeaderOffset : Nat) (ucValue : UInt8) : M Unit := do
  writeBytes p ulIPHeaderOffset [(← load8 p ulIPHeaderOffset) &&& 0xF0]
  writeBytes p ulIPHeaderOffset [(← load8 p ulIPHeaderOffset) ||| ((ucValue &&& 0x3C) >>> 2)]
  writeBytes p (ulIPHeaderOffset + 1) [(← load8 p (ulIPHeaderOffset + 1)) &&& 0x3F]
  writeBytes p (ulIPHeaderOffset + 1) [(← load8 p (ulIPHeaderOffset + 1)) ||| ((ucValue &&& 0x3) <<< 6)]

/-- `usStack` is what the uninitialised variable `usEtherType` holds. -/
def xDSClassSet (usStack : UInt16) (pxBuf : BufId) (ucValue : UInt8) : M Bool := do
  let (usEtherType, ulIPHeaderOffset) ← prvGetIPVersionAndOffset pxBuf usStack
  let p := (← loadBuf pxBuf).pucEthernetBuffer
  if usEtherType = ipIPv4FrameType then
    writeBytes p (ulIPHeaderOffset + 1) [diffservSetDsClassIPv4 ucValue]
    return true
  else if usEtherType = ipIPv6FrameType then
    diffservSetDsClassIPv6 p ulIPHeaderOffset ucValue
    return true
  else
    return false

end FreeRtosTsn.Fields
