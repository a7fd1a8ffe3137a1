import FreeRtosTsn.Node.Serving
import FreeRtosTsn.Resources.Lifecycle
import FreeRtosTsn.Resources.Places

/-!
# The network buffers of the node

Where each buffer is while tasks, the driver and the controller pass it on. A call is one step here, and the controller
pops an item in one step and serves it in another. The places of `Resources` are those that a call leaves a buffer in,
apart from the network queues.
-/

namespace FreeRtosTsn.Node

open Lib Kernel Packet Scheduler Resources

/-! ## Places -/

/-- `held` is with a task or the driver, and `lost` with nobody. An item is at its queue until it is served. -/
inductive Place
  | held
  | lost
  | queue (q : QueueHandle)
  | stack (p : BufPlace)
  deriving DecidableEq

/-- The node, with the buffers that tasks and the driver have, those that were lost, and what the controller popped. No
code reads the two lists. -/
structure BufferState where
  w : World
  held : List BufId
  lost : List BufId
  serving : Option (NetworkQueue × NetworkQueueItem)

/-- The item of the queue that the controller serves. -/
def inHand (serving : Option (NetworkQueue × NetworkQueueItem)) (q : QueueHandle) : List NetworkQueueItem :=
  match serving with
  | some (pxQueue, xItem) => if pxQueue.xQueue = q then [xItem] else []
  | none => []

/-- The items that the queue accepted and that are not served yet. -/
def BufferState.items (s : BufferState) (q : QueueHandle) : List NetworkQueueItem := inHand s.serving q ++ s.w.queues q

def Place.count (s : BufferState) (b : BufId) : Place → Nat
  | .held => s.held.count b
  | .lost => s.lost.count b
  | .queue q => (s.items q).countP fun xItem => xItem.pxBuf == some b
  | .stack p => p.count s.w b

def stackBuffers (w : World) : BufPlace → List BufId
  | .released => w.released.map Prod.fst
  | .ipTask => w.ipTaskEvents
  | .udp => w.udpProcessed
  | .waiting k => waiting w k

/-- The buffers that are at a place. -/
def Place.buffers (s : BufferState) : Place → List BufId
  | .held => s.held
  | .lost => s.lost
  | .queue q => (s.items q).filterMap (·.pxBuf)
  | .stack p => stackBuffers s.w p

/-- How far a buffer has come. -/
def Place.rank : Place → Nat
  | .held => 0
  | .queue _ => 1
  | .stack (.waiting _) => 2
  | _ => 3

/-- First in is first out. -/
def Place.IsLine : Place → Prop
  | .queue _ => True
  | .stack (.waiting _) => True
  | _ => False

/-- `prvDeliverFrame` returns at once. -/
def ignores (d : NetworkBufferDescriptor) : Bool :=
  d.pxInterface.isNone || d.pxEndPoint.isNone || d.xDataLength < ipSizeOfEthHeader

/-- The buffer of an item that is popped and forgotten. -/
def forgotten (w : World) (xItem : NetworkQueueItem) : List BufId :=
  if xItem.eEventType = .eNetworkTxEvent then [] else (xItem.pxBuf.filter fun b => ignores (w.bufs b)).toList

/-! ## Steps -/

/-- Other code ran: it moved no buffer, and sockets that are new have no packets. -/
structure BuffersStay (w w' : World) : Prop where
  queues : w'.queues = w.queues
  released : w'.released = w.released
  ipTaskEvents : w'.ipTaskEvents = w.ipTaskEvents
  udpProcessed : w'.udpProcessed = w.udpProcessed
  waiting : ∀ k, waiting w' k = waiting w k
  calls_le : w.calls ≤ w'.calls
  sockets : ∀ k, w'.calls ≤ k → w.baseSockets k = none → w'.baseSockets k = none

/-- A call that returns. Frames are sent with the request to release them, and receives do not peek. -/
inductive BufferStep (cfg : Config) : BufferState → BufferState → Prop
  | allocate {s : BufferState} {xRequestedSizeBytes : Nat} {b : BufId} {w' : World} :
      (pxGetNetworkBufferWithDescriptor xRequestedSizeBytes).run s.w = .ok (some b) w' →
      BufferStep cfg s { s with w := w', held := b :: s.held }
  | release {s : BufferState} {b : BufId} : b ∈ s.held →
      BufferStep cfg s { s with w := s.w.release b, held := s.held.erase b }
  | receive {s : BufferState} {eEventType : IPEvent} {b : BufId} {uxTimeout : Nat} {r : Bool} {w' : World} :
      b ∈ s.held → (xSendEventStructToTsnController cfg eEventType b uxTimeout).run s.w = .ok r w' →
      BufferStep cfg s { s with w := w', held := if r then s.held.erase b else s.held }
  /-- A frame is sent with the request to release it. Nobody releases one that no queue takes. -/
  | output {s : BufferState} {pxInterface : IfaceId} {b : BufId} {r : Bool} {w' : World} : b ∈ s.held →
      s.w.bCallingFromController = false →
      (xTsnNetworkInterfaceOutput cfg pxInterface b true).run s.w = .ok r w' →
      BufferStep cfg s { s with w := w', held := s.held.erase b, lost := if r then s.lost else b :: s.lost }
  | sendto {s : BufferState} {xSocket : Addr} {pvBuffer : List UInt8} {dest : Option Destination} {r : Int} {w' : World} :
      (freeRtosTsnSendto cfg xSocket pvBuffer dest).run s.w = .ok r w' → BufferStep cfg s { s with w := w' }
  | recvmsg {s : BufferState} {xSocket : Addr} {pxMsghUser : Option UserMsghdr} {xFlags : Nat}
      {r : Int × Option UserMsghdr} {w' : World} :
      (hasFlag xFlags freertosMsgPeek = true → hasFlag xFlags freertosMsgErrqueue = true) →
      (freeRtosTsnRecvmsg xSocket pxMsghUser xFlags).run s.w = .ok r w' → BufferStep cfg s { s with w := w' }
  | socket {s : BufferState} {c : SocketCall} {opened opened' : List Addr} {w' : World} :
      (c.run cfg opened).run s.w = .ok opened' w' → BufferStep cfg s { s with w := w' }
  | setsockopt {s : BufferState} {xSocket : Addr} {lOptionName ulOptionValue r : Int} {w' : World} :
      (freeRtosTsnSetsockopt cfg xSocket lOptionName ulOptionValue).run s.w = .ok r w' →
      BufferStep cfg s { s with w := w' }
  | pop {s : BufferState} {pxQueue : NetworkQueue} {xItem : NetworkQueueItem} {rest : List NetworkQueueItem} :
      s.serving = none → s.w.queues pxQueue.xQueue = xItem :: rest →
      BufferStep cfg s
        { s with
          w := { s.w with queues := Function.update s.w.queues pxQueue.xQueue rest }
          serving := some (pxQueue, xItem) }
  | serve {s : BufferState} {pxQueue : NetworkQueue} {xItem : NetworkQueueItem} {w' : World} :
      s.serving = some (pxQueue, xItem) → Served cfg pxQueue xItem s.w w' →
      BufferStep cfg s { s with w := w', lost := forgotten s.w xItem ++ s.lost, serving := none }
  | other {s : BufferState} {w' : World} : BuffersStay s.w w' → BufferStep cfg s { s with w := w' }

/-- The node boots, and nobody has a buffer. -/
structure BufferState.Starts (s : BufferState) : Prop where
  nowhere : ∀ b p, Place.count s b p = 0
  serving : s.serving = none
  queues : ∀ q, s.w.queues q = []
  baseSockets : ∀ k, s.w.baseSockets k = none

end FreeRtosTsn.Node
