import FreeRtosTsn.Kernel.Stack

/-!
# Frame headers and VLAN tags

The offsets of the packed headers of FreeRTOS-Plus-TCP, the constants that fields are compared with, as they read
on a little-endian target, and FreeRTOS_TSN_VLANTags.c.
-/

namespace FreeRtosTsn.Packet

open Lib Kernel

/-! ## Headers -/

def ipSizeOfEthHeader : Nat := 14
def ipSizeOfIPv4Header : Nat := 20
def ipSizeOfIPv6Header : Nat := 40
def ipSizeOfUdpHeader : Nat := 8

/-- The offset of `usFrameType` in `EthernetHeader_t`. -/
def ethFrameType : Nat := 12

def ipIPv4FrameType : UInt16 := 0x0008
def ipIPv6FrameType : UInt16 := 0xDD86

def ipProtocolTcp : UInt8 := 6
def ipProtocolUdp : UInt8 := 17

/-! ## Tags -/

def vlantagTpidDefault : UInt16 := 0x8100
def vlantagTpidDoubleTag : UInt16 := 0x88a8

/-- The size of `struct xVLAN_TAG`: the TPID, then the TCI. -/
def vlanTagSize : Nat := 4

def ucGetNumberOfTags (pxBuf : BufId) : M Nat := do
  let d ← loadBuf pxBuf
  if d.xDataLength < ipSizeOfEthHeader then
    return 0
  let usEthType := swap16 (← load16 d.pucEthernetBuffer ethFrameType)
  if usEthType = vlantagTpidDoubleTag then
    return 1
  else if usEthType = vlantagTpidDefault then
    return 2
  else
    return 0

end FreeRtosTsn.Packet
