import FreeRtosTsn.Packet.Spec

/-!
# The life of TSN sockets

The runs of the calls of a user on sockets, with the sockets that are open, and what the table of bound sockets and
the live resources are in terms of these.
-/

namespace FreeRtosTsn.Resources

open Lib Kernel Packet

/-! ## What a socket refers to -/

def baseOf (w : World) (t : Addr) : Option SockId :=
  match w.heap t with
  | some (.tsnSocket s) => some s.xBaseSocket
  | _ => none

def errQueueOf (w : World) (t : Addr) : Option QueueHandle :=
  match w.heap t with
  | some (.tsnSocket s) => some s.xErrQueue
  | _ => none

/-- The local port of a base socket, in network byte order, if it is bound. -/
def portOf (w : World) (k : SockId) : Option UInt16 :=
  match w.baseSockets k with
  | some x => if x.bBound then some (swap16 x.usLocalPort) else none
  | none => none

/-- The port that a TSN socket is bound to. -/
def boundPort (w : World) (t : Addr) : Option UInt16 := (baseOf w t).bind (portOf w)

/-! ## The table of bound sockets -/

inductive SocketCall
  | socket (bIsIPv6 : Bool) (xType : Nat)
  | bind (xSocket : Addr) (sinPort : UInt16)
  | closesocket (xSocket : Addr)

/-- Sockets are bound and closed while they are open. -/
def SocketCall.Valid (opened : List Addr) : SocketCall → Prop
  | .socket _ _ => True
  | .bind t _ | .closesocket t => t ∈ opened

/-- The call, with the sockets that are open after it. -/
def SocketCall.run (cfg : Config) (opened : List Addr) : SocketCall → M (List Addr)
  | .socket bIsIPv6 xType => do
      match ← freeRtosTsnSocket cfg bIsIPv6 xType with
      | some xSocket => return opened ++ [xSocket]
      | none => return opened
  | .bind xSocket sinPort => do
      let _ ← freeRtosTsnBind xSocket sinPort
      return opened
  | .closesocket xSocket => do
      freeRtosTsnClosesocket xSocket
      return opened.filter (· ≠ xSocket)

/-- The states that valid calls lead to. -/
inductive SocketRun (cfg : Config) (w₀ : World) : World → List Addr → Prop
  | start : SocketRun cfg w₀ w₀ []
  | call {w w' : World} {opened opened' : List Addr} {c : SocketCall} : SocketRun cfg w₀ w opened → c.Valid opened →
      (c.run cfg opened).run w = .ok opened' w' → SocketRun cfg w₀ w' opened'

/-- No TSN socket is bound yet, and the names of new blocks and sockets are free. -/
structure StartsSockets (w : World) : Prop where
  heap : ∀ y, w.calls ≤ y → w.heap y = none
  baseSockets : ∀ k, w.calls ≤ k → w.baseSockets k = none
  tsn : w.xTSNBoundUDPSocketList = []

/-- The table holds the open sockets that are bound, each once under its port, and is searched accordingly. -/
structure TableExact (w : World) (opened : List Addr) : Prop where
  listed : ∀ usPort t, (usPort, t) ∈ w.xTSNBoundUDPSocketList ↔ t ∈ opened ∧ boundPort w t = some usPort
  once : (w.xTSNBoundUDPSocketList.map Prod.snd).Nodup
  keys : (w.xTSNBoundUDPSocketList.map Prod.fst).Nodup
  found : ∀ usPort, ∀ t ∈ opened, boundPort w t = some usPort →
    (vSocketFromPort usPort).run w = .ok (baseOf w t, some t) w
  notFound : ∀ usPort, (∀ t ∈ opened, boundPort w t ≠ some usPort) →
    (vSocketFromPort usPort).run w = .ok (prvLookup usPort w.xBoundUDPSocketsList, none) w

/-- A socket is not closed before it is bound. -/
def SocketCall.ClosesBound (w : World) : SocketCall → Prop
  | .closesocket t => ∃ usPort, boundPort w t = some usPort
  | _ => True

/-! ## Live resources -/

inductive LifecycleCall
  | sockets (c : SocketCall)
  | setsockopt (xSocket : Addr) (lOptionName ulOptionValue : Int)
  /-- The driver took a frame that was sent from a port. -/
  | transmit (pxBuffer : BufId) (usBoundPort : UInt16)

def LifecycleCall.Valid (opened : List Addr) : LifecycleCall → Prop
  | .sockets c => c.Valid opened
  | .setsockopt t _ _ => t ∈ opened
  | .transmit _ _ => True

def LifecycleCall.run (cfg : Config) (opened : List Addr) : LifecycleCall → M (List Addr)
  | .sockets c => c.run cfg opened
  | .setsockopt xSocket lOptionName ulOptionValue => do
      let _ ← freeRtosTsnSetsockopt cfg xSocket lOptionName ulOptionValue
      return opened
  | .transmit pxBuffer usBoundPort => do
      modifyBuf pxBuffer fun d => { d with usBoundPort := usBoundPort }
      prvTimestampSent cfg pxBuffer
      return opened

/-- The blocks that are reached from the open sockets: their own, the messages in their error queues, and the parts of
these. -/
inductive Reached (w : World) (opened : List Addr) : Addr → Prop
  | socket {t : Addr} : t ∈ opened → Reached w opened t
  | message {t a : Addr} {q : QueueHandle} : t ∈ opened → errQueueOf w t = some q → a ∈ w.errQueues q →
      Reached w opened a
  | part {t a x : Addr} {q : QueueHandle} {m : Msghdr} {p : Part} : t ∈ opened → errQueueOf w t = some q →
      a ∈ w.errQueues q → w.heap a = some (.msghdr m) → part m p = some x → Reached w opened x

/-- What is live is what is reached from the open sockets. -/
structure LiveExact (w : World) (opened : List Addr) : Prop where
  blocks : ∀ x, w.heap x ≠ none ↔ Reached w opened x
  baseSockets : ∀ k, w.baseSockets k ≠ none ↔ ∃ t ∈ opened, baseOf w t = some k
  errQueues : ∀ q, q ∈ w.errQueueHandles ↔ ∃ t ∈ opened, errQueueOf w t = some q

/-- The block and the base socket of a new socket are there, but not its error queue. -/
def QueueFails (w : World) (xType : Nat) : Prop :=
  xType = freertosSockDgram ∧ w.env.pvPortMalloc w.calls = true ∧ w.env.freeRtosSocket (w.calls + 1) = true ∧
    w.env.xQueueCreate (w.calls + 2) = false

/-- The calls that keep the balance: no socket is closed or fails to get its error queue alone, and an error queue is
reset only when it is empty and is not full when a timestamp comes. -/
def LifecycleCall.Keeps (cfg : Config) (w : World) : LifecycleCall → Prop
  | .sockets (.socket _ xType) => ¬QueueFails w xType
  | .sockets (.bind _ _) => True
  | .sockets (.closesocket _) => False
  | .setsockopt t lOptionName ulOptionValue => lOptionName = freertosSoTimestamping →
      inTimestampingMask ulOptionValue = true → ∀ q, errQueueOf w t = some q → w.errQueues q = []
  | .transmit _ usBoundPort => ∀ t s, prvLookup usBoundPort w.xTSNBoundUDPSocketList = some t →
      w.heap t = some (.tsnSocket s) → hasFlag s.ulTSFlags sofTimestampingTxSoftware = true →
      w.env.pvPortMalloc (w.calls + 1) = true → (w.errQueues s.xErrQueue).length < cfg.tsnconfigErrqueueLength

/-- The states that valid calls lead to when all of them keep the balance. -/
inductive LifecycleRun (cfg : Config) (w₀ : World) : World → List Addr → Prop
  | start : LifecycleRun cfg w₀ w₀ []
  | call {w w' : World} {opened opened' : List Addr} {c : LifecycleCall} : LifecycleRun cfg w₀ w opened →
      c.Valid opened → c.Keeps cfg w → (c.run cfg opened).run w = .ok opened' w' → LifecycleRun cfg w₀ w' opened'

/-- Nothing is live yet. -/
structure StartsEmpty (w : World) : Prop where
  heap : ∀ x, w.heap x = none
  baseSockets : ∀ k, w.baseSockets k = none
  errQueueHandles : w.errQueueHandles = []
  tsn : w.xTSNBoundUDPSocketList = []

end FreeRtosTsn.Resources
