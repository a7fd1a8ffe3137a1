import FreeRtosTsn.Packet.VlanTags

/-!
# The accessors of tags

FreeRTOS_TSN_VLANTags.c beyond `ucGetNumberOfTags`. A pointer to a tag points at its TPID; the fields of a tag are
read and written as 16-bit words of the target, without `FreeRTOS_ntohs`.
-/

namespace FreeRtosTsn.Fields

open Lib Kernel Packet

/-! ## Fields of a TCI -/

def vlantagPcpBitMask : UInt16 := 0xE000
def vlantagDeiBitMask : UInt16 := 0x1000
def vlantagVidBitMask : UInt16 := 0x0FFF

def vlantagGetPcpFromTci (x : UInt16) : UInt16 := (x &&& vlantagPcpBitMask) >>> 13

def vlantagGetDeiFromTci (x : UInt16) : UInt16 := (x &&& vlantagDeiBitMask) >>> 12

def vlantagGetVidFromTci (x : UInt16) : UInt16 := x &&& vlantagVidBitMask

/-- The value is converted to an unsigned word, and the result cut to 16 bits. -/
def vlantagSetPcpFromTci (x : UInt16) (value : Int) : UInt16 :=
  (x &&& ~~~vlantagPcpBitMask) ||| ((UInt32.ofInt value &&& 0x7) <<< 13).toUInt16

/-- The value is shifted to the right. -/
def vlantagSetDeiFromTci (x : UInt16) (value : Int) : UInt16 :=
  (x &&& ~~~vlantagDeiBitMask) ||| ((UInt32.ofInt value &&& 0x1) >>> 12).toUInt16

def vlantagSetVidFromTci (x : UInt16) (value : Int) : UInt16 :=
  (x &&& ~~~vlantagVidBitMask) ||| (UInt32.ofInt value &&& 0xFFF).toUInt16

/-! ## Finding a tag -/

/-- The offset of `usTCI` in `struct xVLAN_TAG`. -/
def tagTci : Nat := 2

/-- The case that computes `uxOffset` has no `break`. -/
def prvGetVLANSTag (_pxBuf : BufId) (ucNumTags : Nat) : M (Option Ptr) := do
  let otherwise : M (Option Ptr) := return none
  match ucNumTags with
  | 2 =>
      let _uxOffset := ethFrameType
      otherwise
  | _ => otherwise

/-- Neither case that computes `uxOffset` has a `break`. -/
def prvGetVLANCTag (_pxBuf : BufId) (ucNumTags : Nat) : M (Option Ptr) := do
  let otherwise : M (Option Ptr) := return none
  let case2 : M (Option Ptr) := do
    let _uxOffset := ethFrameType + vlanTagSize
    otherwise
  match ucNumTags with
  | 1 =>
      let _uxOffset := ethFrameType
      case2
  | 2 => case2
  | _ => otherwise

/-- `pxVLANField->usTPID = usTPID` -/
def storeTPID (pxVLANField : Option Ptr) (usTPID : UInt16) : M Unit := do
  writeBytes (← deref pxVLANField) 0 (bytes16 usTPID)

/-- `pxVLANField->usTCI = usTCI` -/
def storeTCI (pxVLANField : Option Ptr) (usTCI : UInt16) : M Unit := do
  writeBytes (← deref pxVLANField) tagTci (bytes16 usTCI)

/-- `pxVLANField->usTCI` -/
def loadTCI (pxVLANField : Option Ptr) : M UInt16 := do
  load16 (← deref pxVLANField) tagTci

def prvPrepareAndGetVLANCTag (pxBuf : BufId) : M (Option Ptr) := do
  match ← ucGetNumberOfTags pxBuf with
  | 0 =>
      let pxVLANField ← prvGetVLANCTag pxBuf 1
      storeTPID pxVLANField (swap16 vlantagTpidDefault)
      storeTCI pxVLANField 0
      return pxVLANField
  | 1 | 2 => prvGetVLANCTag pxBuf 2
  | _ => return none

/-- The case of one tag has no `break`, and every case returns the customer tag. -/
def prvPrepareAndGetVLANSTag (pxBuf : BufId) : M (Option Ptr) := do
  match ← ucGetNumberOfTags pxBuf with
  | 0 =>
      let pxVLANFieldS ← prvGetVLANSTag pxBuf 2
      storeTPID pxVLANFieldS (swap16 vlantagTpidDoubleTag)
      storeTCI pxVLANFieldS 0
      let pxVLANFieldC ← prvGetVLANCTag pxBuf 2
      storeTPID pxVLANFieldC (swap16 vlantagTpidDefault)
      storeTCI pxVLANFieldC 0
      return pxVLANFieldC
  | 1 =>
      let pxVLANFieldS ← prvGetVLANSTag pxBuf 2
      let pxVLANFieldC ← prvGetVLANCTag pxBuf 2
      storeTPID pxVLANFieldC (swap16 vlantagTpidDefault)
      storeTCI pxVLANFieldC (← loadTCI pxVLANFieldS)
      storeTPID pxVLANFieldS (swap16 vlantagTpidDoubleTag)
      storeTCI pxVLANFieldS 0
      prvGetVLANCTag pxBuf 2
  | 2 => prvGetVLANCTag pxBuf 2
  | _ => return none

/-! ## Getters -/

/-- The body of the getters; `~0` is -1. -/
def prvGetField (prvGetVLANTag : BufId → Nat → M (Option Ptr)) (fnGet : UInt16 → UInt16) (pxBuf : BufId) : M Int := do
  let ucNumTags ← ucGetNumberOfTags pxBuf
  let pxVLANField ← prvGetVLANTag pxBuf ucNumTags
  if pxVLANField.isSome then
    return (fnGet (← loadTCI pxVLANField)).toNat
  else
    return -1

def xVLANSTagGetPCP : BufId → M Int := prvGetField prvGetVLANSTag vlantagGetPcpFromTci

def xVLANSTagGetDEI : BufId → M Int := prvGetField prvGetVLANSTag vlantagGetDeiFromTci

def xVLANSTagGetVID : BufId → M Int := prvGetField prvGetVLANSTag vlantagGetVidFromTci

def xVLANCTagGetPCP : BufId → M Int := prvGetField prvGetVLANCTag vlantagGetPcpFromTci

def xVLANCTagGetDEI : BufId → M Int := prvGetField prvGetVLANCTag vlantagGetDeiFromTci

def xVLANCTagGetVID : BufId → M Int := prvGetField prvGetVLANCTag vlantagGetVidFromTci

/-- The body of the two checks. -/
def prvCheckClass (xVLANTagGetPCP : BufId → M Int) (pxBuf : BufId) (xClass : Int) : M Bool := do
  let xFoundClass ← xVLANTagGetPCP pxBuf
  return xFoundClass != -1 && xFoundClass == xClass

def xVLANSTagCheckClass : BufId → Int → M Bool := prvCheckClass xVLANSTagGetPCP

def xVLANCTagCheckClass : BufId → Int → M Bool := prvCheckClass xVLANCTagGetPCP

/-! ## Setters -/

/-- The body of the setters. -/
def prvSetField (prvPrepareAndGetVLANTag : BufId → M (Option Ptr)) (fnSet : UInt16 → Int → UInt16) (pxBuf : BufId)
    (xValue : Int) : M Bool := do
  let pxVLANField ← prvPrepareAndGetVLANTag pxBuf
  if pxVLANField.isSome then
    storeTCI pxVLANField (fnSet (← loadTCI pxVLANField) xValue)
    return true
  else
    return false

def xVLANCTagSetPCP : BufId → Int → M Bool := prvSetField prvPrepareAndGetVLANCTag vlantagSetPcpFromTci

def xVLANCTagSetDEI : BufId → Int → M Bool := prvSetField prvPrepareAndGetVLANCTag vlantagSetDeiFromTci

def xVLANCTagSetVID : BufId → Int → M Bool := prvSetField prvPrepareAndGetVLANCTag vlantagSetVidFromTci

def xVLANSTagSetPCP : BufId → Int → M Bool := prvSetField prvPrepareAndGetVLANSTag vlantagSetPcpFromTci

def xVLANSTagSetDEI : BufId → Int → M Bool := prvSetField prvPrepareAndGetVLANSTag vlantagSetDeiFromTci

def xVLANSTagSetVID : BufId → Int → M Bool := prvSetField prvPrepareAndGetVLANSTag vlantagSetVidFromTci

end FreeRtosTsn.Fields
