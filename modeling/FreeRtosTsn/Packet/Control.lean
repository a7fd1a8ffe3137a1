import FreeRtosTsn.Lib.Walk
import FreeRtosTsn.Packet.Ancillary

/-!
# Control messages for any widths

The macros of FreeRTOS_TSN_Ancillary.h and `xAncillaryMsgControlFill`, for any `long` and `size_t`. A `socklen_t` has
32 bits.
-/

namespace FreeRtosTsn.Packet

open Lib

/-- `sizeof( long )`, and the bits of a `size_t`. -/
structure DataModel where
  sizeofLong : Nat
  sizeBits : Nat
  sizeofLong_eq : sizeofLong = 4 ∨ sizeofLong = 8
  sizeBits_ge : 8 * sizeofLong ≤ sizeBits

/-- `sizeof( struct cmsghdr )` is the same with each. -/
def ilp32 : DataModel := ⟨4, 32, .inl rfl, Nat.le_refl _⟩

def lp64 : DataModel := ⟨8, 64, .inr rfl, Nat.le_refl _⟩

/-- `CMSG_FIRSTHDR`. Headers are known by their offsets from the start of the control data. -/
def cmsgFirstHdr (len : Nat) : Option Nat := if len ≥ cmsghdrSize then some 0 else none

namespace DataModel

variable (D : DataModel)

/-! ## The macros -/

def wrapSize (n : Nat) : Nat := n % 2 ^ D.sizeBits

def cmsgAlign (len : Nat) : Nat := D.wrapSize (len + D.sizeofLong - 1) / D.sizeofLong * D.sizeofLong

def cmsgData (cmsg : Nat) : Nat := cmsg + D.cmsgAlign cmsghdrSize

def cmsgSpace (len : Nat) : Nat := D.wrapSize (D.cmsgAlign cmsghdrSize + D.cmsgAlign len)

def cmsgLen (len : Nat) : Nat := D.wrapSize (D.cmsgAlign cmsghdrSize + len)

/-- The end of the next header is compared as an `unsigned long`. -/
def cmsgNxtHdr (ctl : Mem) (size cmsg : Nat) : Option Nat :=
  let ptr := cmsg + D.cmsgAlign (ctl.load32 cmsg).toNat
  if (ptr + cmsghdrSize) % 2 ^ (8 * D.sizeofLong) > size then none else some ptr

/-! ## Packing -/

/-- What a pass of the loop writes, with its offsets. -/
def controlFields (cmsg : Nat) (c : ControlMsg) : List (Nat × List UInt8) :=
  [(cmsg, bytes32 (UInt32.ofNat (D.cmsgLen c.data.length))), (cmsg + 4, bytes32 c.cmsgLevel),
    (cmsg + 8, bytes32 c.cmsgType), (D.cmsgData cmsg, c.data)]

/-- The loop that packs: whether each message had room, and what was written. -/
def prvPackControl (size : Nat) : Mem → Option Nat → List ControlMsg → Bool × List (Nat × List UInt8)
  | _, _, [] => (true, [])
  | _, none, _ :: _ => (false, [])
  | ctl, some cmsg, c :: cs =>
      let fs := D.controlFields cmsg c
      let r := prvPackControl size (ctl.writeAll fs) (D.cmsgNxtHdr (ctl.writeAll fs) size cmsg) cs
      (r.1, fs ++ r.2)

/-- What a call leaves: its result, the fields of the `msghdr` with the contents of the block, and what was written
to the block. -/
structure ControlFilled where
  xReturn : Bool
  msgControl : Option Mem
  msgControllen : Nat
  fields : List (Nat × List UInt8)

def uxTotalSpace (cs : List ControlMsg) : Nat :=
  cs.foldl (fun uxTotal c => D.wrapSize (uxTotal + D.cmsgSpace c.data.length)) 0

/-- The block that was allocated is `pxBuffer`, with any contents; the message header is not null. -/
def xAncillaryMsgControlFill (pxBuffer : Option Mem) (cs : List ControlMsg) : ControlFilled :=
  match pxBuffer with
  | none => ⟨false, none, 0, []⟩
  | some ctl =>
      let uxTotalSpace := D.uxTotalSpace cs
      let r := D.prvPackControl uxTotalSpace ctl (cmsgFirstHdr uxTotalSpace) cs
      if r.1 then ⟨true, some (ctl.writeAll r.2), uxTotalSpace, r.2⟩ else ⟨false, none, 0, r.2⟩

/-! ## What a walk finds -/

/-- The header at `cmsg` is that of `c`. -/
structure HeaderOf (ctl : Mem) (c : ControlMsg) (cmsg : Nat) : Prop where
  cmsgLen : (ctl.load32 cmsg).toNat = D.cmsgLen c.data.length
  cmsgLevel : ctl.load32 (cmsg + 4) = c.cmsgLevel
  cmsgType : ctl.load32 (cmsg + 8) = c.cmsgType

/-- The message at `cmsg` is `c`. -/
structure MessageOf (ctl : Mem) (c : ControlMsg) (cmsg : Nat) : Prop extends D.HeaderOf ctl c cmsg where
  data : ctl.read (D.cmsgData cmsg) c.data.length = c.data

/-- The walk from `CMSG_FIRSTHDR` by `CMSG_NXTHDR` ends, and has visited the headers at `l`. -/
def ControlWalk (ctl : Mem) (msgControllen : Nat) (l : List Nat) : Prop :=
  Walk (D.cmsgNxtHdr ctl msgControllen) (cmsgFirstHdr msgControllen) l

/-- The messages are in the block, for a walk to find. -/
structure Packed (r : ControlFilled) (cs : List ControlMsg) : Prop where
  xReturn : r.xReturn = true
  inside : ∀ f ∈ r.fields, f.1 + f.2.length ≤ r.msgControllen
  found : ∃ ctl l, r.msgControl = some ctl ∧ D.ControlWalk ctl r.msgControllen l ∧
    List.Forall₂ (D.MessageOf ctl) cs l

/-- Whether there is memory or not, the call does what it should. -/
structure RoundTrips (cs : List ControlMsg) : Prop where
  packed : ∀ ctl, D.Packed (D.xAncillaryMsgControlFill (some ctl) cs) cs
  msgControl : (D.xAncillaryMsgControlFill none cs).msgControl = none
  msgControllen : (D.xAncillaryMsgControlFill none cs).msgControllen = 0

/-! ## Sizes without a bound -/

def align (n : Nat) : Nat := (n + D.sizeofLong - 1) / D.sizeofLong * D.sizeofLong

def space (c : ControlMsg) : Nat := D.align cmsghdrSize + D.align c.data.length

/-- What `CMSG_SPACE` comes to for all messages. -/
def totalSpace (cs : List ControlMsg) : Nat := (cs.map D.space).sum

/-! ## The messages in their places -/

def offsets : Nat → List ControlMsg → List Nat
  | _, [] => []
  | off, c :: cs => off :: offsets (off + D.space c) cs

/-- What the loop writes when there is room. -/
def packedFields : Nat → List ControlMsg → List (Nat × List UInt8)
  | _, [] => []
  | off, c :: cs => D.controlFields off c ++ packedFields (off + D.space c) cs

/-! ## Control data that was cut -/

/-- A walk of the first `n` bytes ends, and has visited the first messages, each whole. -/
def WalksWhole (ctl : Mem) (n : Nat) (cs : List ControlMsg) : Prop :=
  ∃ l k, D.ControlWalk ctl n l ∧
    List.Forall₂ (fun c cmsg => D.HeaderOf ctl c cmsg ∧ cmsg + D.cmsgLen c.data.length ≤ n) (cs.take k) l

/-- A message whose header is in the first `n` bytes from `off` on is there as a whole, and the end of a header behind
it does not wrap. -/
def NoneCut (n off : Nat) (cs : List ControlMsg) : Prop :=
  ∀ p ∈ cs.zip (D.offsets off cs), p.2 + cmsghdrSize ≤ n →
    p.2 + D.cmsgLen p.1.data.length ≤ n ∧ p.2 + D.space p.1 + cmsghdrSize < 2 ^ (8 * D.sizeofLong)

instance (n off : Nat) (cs : List ControlMsg) : Decidable (D.NoneCut n off cs) := List.decidableBAll _ _

end DataModel

end FreeRtosTsn.Packet
