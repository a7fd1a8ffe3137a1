import FreeRtosTsn.Packet.Control
import FreeRtosTsn.Packet.Spec

/-!
# What the user is given

The part of a frame, and of the control data of its message, that `FreeRTOS_TSN_recvmsg` copies.
-/

namespace FreeRtosTsn.Packet

open Lib Kernel

/-! ## The payload -/

/-- The frame in `b` was received with the message at `a`, and waits: nothing else was done to them since. -/
structure Waits (b : BufId) (a : Addr) (w w' : World) : Prop where
  pucEthernetBuffer : (w'.bufs b).pucEthernetBuffer = .blk a
  mem : w'.mem b = w.mem b
  msghdr : ∀ m, w.heap a = some (.msghdr m) →
    w'.heap a = some (.msghdr m) ∧ ∀ y, m.msgIov = some y → w'.heap y = w.heap y

/-- What is copied of a frame with `uxLength` bytes to a user with room for `iovLen`: where it starts, and how much. -/
inductive CopiedRange (w : World) (b : BufId) (uxLength iovLen : Nat) : Nat → Nat → Prop
  | mk {v : Iovec} {w' : World} {off : Nat} (h : (prvMoveToStartOfPayload ⟨.eth b 0, uxLength⟩).run w = .ok v w')
      (hv : v.iovBase = .eth b off) : CopiedRange w b uxLength iovLen off (min iovLen v.iovLen)

/-- The first vector of the user gets bytes of the frame only. -/
def KeepsToFrame (t : Addr) (xFlags : Nat) (u : UserMsghdr) (dst : List UInt8) (iovLen : Nat)
    (us : List (List UInt8 × Nat)) (b : BufId) (uxLength : Nat) (w : World) : Prop :=
  ∃ off uxLen r u' w', CopiedRange w b uxLength iovLen off uxLen ∧
    (freeRtosTsnRecvmsg t (some u) xFlags).run w = .ok (r, some u') w' ∧
    u'.msgIov = some ((copyTo dst ((w.mem b).read off uxLen), uxLen) :: us) ∧ ∀ j < uxLen, off + j < uxLength

/-- The length field of the UDP header. -/
def usLengthOf (m : Mem) : Nat := (swap16 (m.load16 (uxPrefixOf m + 4))).toNat

/-- Behind its headers a UDP frame is as long as its length field says, or as the user has room. -/
def LengthFits (m : Mem) (uxLength iovLen : Nat) : Prop :=
  protocolOf m = ipProtocolUdp → min iovLen (usLengthOf m) = 0 ∨
    uxPrefixOf m + ipSizeOfUdpHeader + min iovLen (usLengthOf m) ≤ uxLength

instance (m : Mem) (uxLength iovLen : Nat) : Decidable (LengthFits m uxLength iovLen) :=
  inferInstanceAs (Decidable (_ → _))

/-! ## Control data -/

/-- A call of `xAncillaryMsgControlFill` built the control data `bs`; its size did not wrap. -/
structure ControlBuilt (cs : List ControlMsg) (bs : List UInt8) : Prop where
  fits : uxControlSpace cs < 2 ^ 32
  built : ∃ a w w' m x, (xAncillaryMsgControlFill a cs).run w = .ok true w' ∧ w'.heap a = some (.msghdr m) ∧
    m.msgControl = some x ∧ w'.heap x = some (.control bs)

/-- The message that a call takes. -/
def takenMsgh (w : World) (s : TSNSocket) (x : BaseSocket) (xFlags : Nat) : Option Addr :=
  if hasFlag xFlags freertosMsgErrqueue then (w.errQueues s.xErrQueue).head?
  else
    match x.xWaitingPacketsList.head?.map fun b => (w.bufs b).pucEthernetBuffer with
    | some (.blk a) => some a
    | _ => none

/-- The message at `a` has the control data `bs`. -/
def HasControl (w : World) (a : Addr) (bs : List UInt8) : Prop :=
  ∃ m x, w.heap a = some (.msghdr m) ∧ m.msgControl = some x ∧ m.msgControllen = bs.length ∧
    w.heap x = some (.control bs)

/-- How much control data the user is given. -/
def givenControllen (u : UserMsghdr) (uxSize : Nat) : Nat :=
  if u.msgControl.isSome then min u.msgControllen uxSize else 0

/-- What the user finds in the control data: the first messages, each whole. -/
def GetsControl (cs : List ControlMsg) (u : UserMsghdr) : Prop :=
  ilp32.WalksWhole (Mem.ofBytes (u.msgControl.getD [])) u.msgControllen cs

end FreeRtosTsn.Packet
