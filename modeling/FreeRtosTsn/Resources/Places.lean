import FreeRtosTsn.Lib.Places
import FreeRtosTsn.Packet.Lemmas.Tags
import FreeRtosTsn.Packet.Spec

/-!
# Where buffers and messages are

A network buffer or a message that nobody holds on the stack is in one of the places below. A leak is one that is in
none of them, and a double owner one that is in two.
-/

namespace FreeRtosTsn.Resources

open Lib Kernel Packet

/-! ## Places -/

/-- Where a network buffer can be: released, given to the IP task, consumed by `xProcessReceivedUDPPacket`, or in the
waiting list of a socket. -/
inductive BufPlace
  | released
  | ipTask
  | udp
  | waiting (k : SockId)
  deriving DecidableEq

def BufPlace.count (w : World) (b : BufId) : BufPlace → Nat
  | .released => releases w b
  | .ipTask => w.ipTaskEvents.count b
  | .udp => w.udpProcessed.count b
  | .waiting k => (Packet.waiting w k).count b

/-- Where a message can be: freed, owned by an entry of a waiting list, or in an error queue. -/
inductive MsgPlace
  | freed
  | waiting (k : SockId)
  | errQueue (q : QueueHandle)
  deriving DecidableEq

def MsgPlace.count (w : World) (a : Addr) : MsgPlace → Nat
  | .freed => w.freed.count a
  | .waiting k => (Packet.waiting w k).countP fun b => (w.bufs b).pucEthernetBuffer == .blk a
  | .errQueue q => (w.errQueues q).count a

/-! ## Delivery -/

/-- The item alone owns its buffer and its message. -/
structure ItemOwns (w : World) (xItem : NetworkQueueItem) : Prop where
  heapOk : HeapOk w
  pucEthernetBuffer : ∀ b, xItem.pxBuf = some b → (w.bufs b).pucEthernetBuffer = .eth b 0
  buf : ∀ b, xItem.pxBuf = some b → ∀ p, BufPlace.count w b p = 0
  msghdr : ∀ a, xItem.pxMsgh = some a → ∃ m, w.heap a = some (.msghdr m)
  msgh : ∀ a, xItem.pxMsgh = some a → ∀ p, MsgPlace.count w a p = 0

/-- The buffer is in exactly one place. So is the message, and its parts are freed exactly when it is. -/
structure Settled (xItem : NetworkQueueItem) (w w' : World) : Prop where
  buf : ∀ b, xItem.pxBuf = some b → Once (BufPlace.count w' b)
  msgh : ∀ a, xItem.pxMsgh = some a → Once (MsgPlace.count w' a)
  parts : ∀ a m, xItem.pxMsgh = some a → w.heap a = some (.msghdr m) → ∀ p x, part m p = some x →
    w'.freed.count x = w'.freed.count a

/-- An error message finds room in the error queue of the socket. -/
def HasErrRoom (cfg : Config) (w : World) (t a : Addr) : Prop :=
  ∀ s m, w.heap t = some (.tsnSocket s) → w.heap a = some (.msghdr m) → hasFlag m.msgFlags freertosMsgErrqueue = true →
    (w.errQueues s.xErrQueue).length < cfg.tsnconfigErrqueueLength

/-- The frame is not ignored; its message goes to a TSN socket that has room for it, or to a socket of +TCP, or there is
none. -/
def Settles (cfg : Config) (w : World) (xItem : NetworkQueueItem) : Prop :=
  match xItem.pxBuf with
  | none => xItem.pxMsgh = none
  | some b => Deliverable w b ∧
      match inspected w b, prvLookup (w.bufs b).usBoundPort w.xTSNBoundUDPSocketList with
      | none, _ => xItem.pxMsgh = none
      | some _, some t => ∀ a, xItem.pxMsgh = some a → HasErrRoom cfg w t a
      | some _, none => xItem.pxMsgh = none ∨ prvLookup (w.bufs b).usBoundPort w.xBoundUDPSocketsList ≠ none

/-! ## Reception -/

/-- A block that was allocated and is still live. -/
def NewBlock (w w' : World) (x : Addr) : Prop := w.heap x = none ∧ w'.heap x ≠ none

/-- The block is the message of the item, or a part of it. -/
def OfItem (w : World) (xItem : NetworkQueueItem) (x : Addr) : Prop :=
  ∃ a m, xItem.pxMsgh = some a ∧ w.heap a = some (.msghdr m) ∧ (x = a ∨ ∃ p, part m p = some x)

/-- On success the new blocks are those of the item that one queue took; on failure there are none, and nobody got the
buffer. -/
def Balanced (b : BufId) (r : Bool) (w w' : World) : Prop :=
  if r then
    ∃ q xItem, xItem.pxBuf = some b ∧ w'.queues = Function.update w.queues q (w.queues q ++ [xItem]) ∧
      ∀ x, NewBlock w w' x → OfItem w' xItem x
  else (∀ x, ¬NewBlock w w' x) ∧ w'.queues = w.queues ∧ ∀ p, BufPlace.count w' b p = BufPlace.count w b p

/-- The destination port of a frame, where it is when the tags are gone. -/
def receivedPort (w : World) (b : BufId) : UInt16 := (portsOf (strippedMem (w.mem b) (w.bufs b).xDataLength)).1

/-- No TSN socket is bound to the port of the frame, and if the frame is wanted at all there is no memory for its
item. -/
def AllocatesNothing (w : World) (b : BufId) : Prop :=
  (receivedPort w b ≠ 0 → prvLookup (receivedPort w b) w.xTSNBoundUDPSocketList = none) ∧
    (receivedPort w b = 0 ∨ prvLookup (receivedPort w b) w.xBoundUDPSocketsList ≠ none →
      w.env.pvPortMalloc w.calls = false)

end FreeRtosTsn.Resources
