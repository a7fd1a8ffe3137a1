import FreeRtosTsn.Packet.VlanTags

/-!
# Ancillary messages

FreeRTOS_TSN_Ancillary.c. `sizeof( long )` and pointers are 4 bytes wide.
-/

namespace FreeRtosTsn.Packet

open Lib Kernel

/-! ## Message headers -/

/-- The block is zeroed before the result of the allocation is looked at. -/
def pxAncillaryMsgMalloc : M Addr := do
  let pxMsgh ← deref (← pvPortMalloc (.msghdr {}))
  storeMsghdr pxMsgh {}
  return pxMsgh

def vAncillaryMsgFree (pxMsgh : Addr) : M Unit := vPortFree pxMsgh

def vFreeNotNull : Option Addr → M Unit
  | none => return ()
  | some a => vPortFree a

def vAncillaryMsgFreeAll (pxMsgh : Addr) : M Unit := do
  let m ← loadMsghdr pxMsgh
  vFreeNotNull m.msgIov
  vFreeNotNull m.msgName
  vFreeNotNull m.msgControl
  vAncillaryMsgFree pxMsgh

def vFreeAllNotNull : Option Addr → M Unit
  | none => return ()
  | some pxMsgh => vAncillaryMsgFreeAll pxMsgh

/-- The lengths are those of a pointer to the address, not of the address. -/
def xAncillaryMsgFillName (pxMsgh : Addr) (xAddr : Option IPAddress) (usPort : UInt16) (xFamily : UInt8) :
    M Bool := do
  match xAddr with
  | some a =>
      match ← pvPortMalloc (.sockaddr ⟨4, xFamily, usPort, 0, a⟩) with
      | none => return false
      | some pxSockAddr =>
          let m ← loadMsghdr pxMsgh
          storeMsghdr pxMsgh { m with msgName := some pxSockAddr, msgNamelen := 4 }
          return true
  | none =>
      let m ← loadMsghdr pxMsgh
      storeMsghdr pxMsgh { m with msgName := none, msgNamelen := 0 }
      return true

def xAncillaryMsgFillPayload (pxMsgh : Addr) (pucBuffer : Ptr) (uxLength : Nat) : M Bool := do
  match ← pvPortMalloc (.iovec [⟨pucBuffer, uxLength⟩]) with
  | none => return false
  | some pxIOvec =>
      let m ← loadMsghdr pxMsgh
      storeMsghdr pxMsgh { m with msgIov := some pxIOvec, msgIovlen := 1 }
      return true

/-! ## Control messages -/

/-- A control message to pack: its level, type and data. -/
structure ControlMsg where
  cmsgLevel : UInt32
  cmsgType : UInt32
  data : List UInt8

/-- `sizeof( struct cmsghdr )`. -/
def cmsghdrSize : Nat := 12

def cmsgAlign (len : Nat) : Nat := (len + 3) / 4 * 4

def cmsgSpace (len : Nat) : Nat := cmsgAlign cmsghdrSize + cmsgAlign len

def cmsgLen (len : Nat) : Nat := cmsgAlign cmsghdrSize + len

/-- `memcpy` into the bytes `bs`. -/
def overwrite (bs : List UInt8) (off : Nat) (src : List UInt8) : List UInt8 :=
  bs.take off ++ src ++ bs.drop (off + src.length)

/-- The offset of the next header, if the buffer has room for one. -/
def cmsgNxtHdr (uxSize off cmsg_len : Nat) : Option Nat :=
  let next := off + cmsgAlign cmsg_len
  if next + cmsghdrSize > uxSize then none else some next

/-- One header with its data at `off`. -/
def putControl (bs : List UInt8) (off : Nat) (c : ControlMsg) : List UInt8 :=
  overwrite
    (overwrite bs off (bytes32 (UInt32.ofNat (cmsgLen c.data.length)) ++ bytes32 c.cmsgLevel ++ bytes32 c.cmsgType))
    (off + cmsgAlign cmsghdrSize) c.data

/-- The loop that packs; `none` is a message without room. -/
def prvPackControl (uxSize : Nat) : List UInt8 → Option Nat → List ControlMsg → Option (List UInt8)
  | bs, _, [] => some bs
  | _, none, _ :: _ => none
  | bs, some off, c :: cs =>
      prvPackControl uxSize (putControl bs off c) (cmsgNxtHdr uxSize off (cmsgLen c.data.length)) cs

def uxControlSpace (cs : List ControlMsg) : Nat := (cs.map fun c => cmsgSpace c.data.length).sum

def xAncillaryMsgControlFill (pxMsgh : Addr) (cs : List ControlMsg) : M Bool := do
  let uxTotalSpace := uxControlSpace cs
  let junk := (List.range uxTotalSpace).map (← get).env.junk
  match ← pvPortMalloc (.control junk) with
  | none =>
      let m ← loadMsghdr pxMsgh
      storeMsghdr pxMsgh { m with msgControl := none, msgControllen := 0 }
      return false
  | some pxBuffer =>
      let m ← loadMsghdr pxMsgh
      storeMsghdr pxMsgh { m with msgControl := some pxBuffer, msgControllen := uxTotalSpace }
      let first := if cmsghdrSize ≤ uxTotalSpace then some 0 else none
      match prvPackControl uxTotalSpace junk first cs with
      | some bs =>
          storeBlock pxBuffer (.control bs)
          return true
      | none =>
          vPortFree pxBuffer
          let m ← loadMsghdr pxMsgh
          storeMsghdr pxMsgh { m with msgControl := none, msgControllen := 0 }
          return false

end FreeRtosTsn.Packet
