import FreeRtosTsn.Node.Serving

/-!
# A receive that waits

`FreeRTOS_TSN_recvmsg` with the loop that waits for a packet, as one task among the controller, which delivers, and
the rest of the node. What follows the loop is the atomic function of `Packet`. The task is the only one that receives
from the socket, and nobody closes it.
-/

namespace FreeRtosTsn.Blocking

open Lib Kernel Packet Scheduler Node

/-! ## The calls -/

def freertosMsgDontwait : Nat := 16

/-- `xEventGroupWaitBits` is two steps: it finds a bit and returns, or the task is `blocked`. -/
inductive RecvCall
  | loadBaseSocket
  | listCurrentListLength
  | vTaskSetTimeOutState
  | xEventGroupWaitBits (xTicksToWait : Nat)
  | blocked
  | xTaskCheckForTimeOut (xTimeOut xTicksToWait : Nat)
  /-- The packet is taken and copied to the user. -/
  | receive

@[reducible] def RecvCall.Res : RecvCall → Type
  | .loadBaseSocket => BaseSocket
  | .listCurrentListLength => Nat
  | .vTaskSetTimeOutState => Nat
  | .xEventGroupWaitBits _ => Bool
  | .blocked => Unit
  | .xTaskCheckForTimeOut _ _ => Option (Nat × Nat)
  | .receive => Int × Option UserMsghdr

abbrev RecvCalls : Sig := ⟨RecvCall, RecvCall.Res⟩

def call (o : RecvCall) : Prog RecvCalls (RecvCall.Res o) := Prog.op (σ := RecvCalls) o

@[simp] theorem call_eq (o : RecvCall) : call o = .call (σ := RecvCalls) o .ret := rfl

/-! ## The function -/

/-- The arguments, and the base socket of `xSocket`. -/
structure Receiver where
  xSocket : Addr
  xBaseSocket : SockId
  pxMsghUser : Option UserMsghdr
  xFlags : Nat

/-- Where the function is: called, in its loop with the start of its timeout if there is one, or at its end. -/
inductive RecvLoop
  | call
  | wait (xTimeOut : Option Nat) (xRemainingTime : Nat)
  | returned (r : Int × Option UserMsghdr)

variable (R : Receiver)

/-- The rest of a pass: the list is looked at before the time. -/
def prvWaitForPacket (xTimeOut xRemainingTime : Nat) : Prog RecvCalls RecvLoop := do
  let bBits ← call (.xEventGroupWaitBits xRemainingTime)
  if !bBits then
    call .blocked
  let lPacketCount ← call .listCurrentListLength
  if lPacketCount ≠ 0 then
    return .returned (← call .receive)
  match ← call (.xTaskCheckForTimeOut xTimeOut xRemainingTime) with
  | none => return .returned (-errnoEagain, R.pxMsghUser)
  | some (xRemainingTime, xTimeOut) => return .wait (some xTimeOut) xRemainingTime

def prvRecvmsg : RecvLoop → Prog RecvCalls RecvLoop
  | .call => do
      let x ← call .loadBaseSocket
      if !x.bBound || R.pxMsghUser.isNone then
        return .returned (-errnoEinval, R.pxMsghUser)
      if hasFlag R.xFlags freertosMsgErrqueue || !x.xWaitingPacketsList.isEmpty then
        return .returned (← call .receive)
      return .wait none x.xReceiveBlockTime
  | .wait none xRemainingTime => do
      if xRemainingTime = 0 ∨ hasFlag R.xFlags freertosMsgDontwait then
        return .returned (-errnoEagain, R.pxMsghUser)
      let xTimeOut ← call .vTaskSetTimeOutState
      prvWaitForPacket R xTimeOut xRemainingTime
  | .wait (some xTimeOut) xRemainingTime => prvWaitForPacket R xTimeOut xRemainingTime
  | .returned r => return .returned r

/-! ## The state -/

structure RecvState where
  w : World
  /-- The bits of the event group of the socket. -/
  eSocketReceive : Bool
  eSocketIntr : Bool
  /-- The task is in the list of the event group: until a tick, or with no timeout. -/
  xWaiter : Option (Option Nat)
  /-- The controller has appended a packet and has not set the bit yet. -/
  bDelivering : Bool
  /-- The block time and the tick that the function began with. No code reads this record and the next three. -/
  called : Nat × Nat
  /-- Whether the base socket was bound then. -/
  bBound : Bool
  /-- The length of the list when it was last looked at. -/
  counted : Nat
  /-- The state in which the packet was taken. -/
  taken : Option World

/-- The receiver starts, with any bits. -/
structure RecvState.Starts (s : RecvState) : Prop where
  xWaiter : s.xWaiter = none
  taken : s.taken = none

/-- Wakes the task if it waits for the bit, which is cleared again, or leaves the bit set. -/
def RecvState.setBits (s : RecvState) (bReceive bIntr : Bool) : RecvState :=
  if s.xWaiter.isSome then { s with xWaiter := none }
  else { s with eSocketReceive := s.eSocketReceive || bReceive, eSocketIntr := s.eSocketIntr || bIntr }

/-- The tick that a wait of `xTicksToWait` ends at. -/
def wakeTime (xTicksToWait uxNow : Nat) : Option Nat :=
  if xTicksToWait = portMaxDelay then none else some (uxNow + xTicksToWait)

/-- The remaining time, and the tick it is counted from. -/
def checkForTimeOut (xTimeOut xTicksToWait uxNow : Nat) : Option (Nat × Nat) :=
  (xTaskCheckForTimeOut xTicksToWait (uxNow - xTimeOut)).map fun xRemainingTime =>
    (xRemainingTime, if xTicksToWait = portMaxDelay then xTimeOut else uxNow)

/-- The effect of a call of the receiver. -/
inductive RecvEffect : (o : RecvCall) → RecvState → RecvCall.Res o → RecvState → Prop
  | loadBaseSocket {s : RecvState} {x : BaseSocket} : s.w.baseSockets R.xBaseSocket = some x →
      RecvEffect .loadBaseSocket s x
        { s with
          called := (x.xReceiveBlockTime, s.w.xTickCount)
          bBound := x.bBound
          counted := x.xWaitingPacketsList.length }
  | listCurrentListLength {s : RecvState} :
      RecvEffect .listCurrentListLength s (waiting s.w R.xBaseSocket).length
        { s with counted := (waiting s.w R.xBaseSocket).length }
  | vTaskSetTimeOutState {s : RecvState} : RecvEffect .vTaskSetTimeOutState s s.w.xTickCount s
  | bitsSet {s : RecvState} {xTicksToWait : Nat} : (s.eSocketReceive || s.eSocketIntr) = true →
      RecvEffect (.xEventGroupWaitBits xTicksToWait) s true { s with eSocketReceive := false, eSocketIntr := false }
  | noBits {s : RecvState} {xTicksToWait : Nat} : (s.eSocketReceive || s.eSocketIntr) = false →
      RecvEffect (.xEventGroupWaitBits xTicksToWait) s false
        { s with xWaiter := some (wakeTime xTicksToWait s.w.xTickCount) }
  | woken {s : RecvState} : s.xWaiter = none → RecvEffect .blocked s () s
  | timedOut {s : RecvState} {uxTime : Nat} : s.xWaiter = some (some uxTime) → uxTime ≤ s.w.xTickCount →
      RecvEffect .blocked s () { s with xWaiter := none }
  | xTaskCheckForTimeOut {s : RecvState} {xTimeOut xTicksToWait : Nat} :
      RecvEffect (.xTaskCheckForTimeOut xTimeOut xTicksToWait) s
        (checkForTimeOut xTimeOut xTicksToWait s.w.xTickCount) s
  | receive {s : RecvState} {r : Int × Option UserMsghdr} {w' : World} :
      (freeRtosTsnRecvmsg R.xSocket R.pxMsghUser R.xFlags).run s.w = .ok r w' →
      RecvEffect .receive s r { s with w := w', taken := some s.w }

/-- What the others do. A delivery is two steps of the controller. -/
inductive RecvStep (cfg : Config) : RecvState → RecvState → Prop
  | serve {s : RecvState} {w' : World} {pxQueue : NetworkQueue} {xItem : NetworkQueueItem} : s.bDelivering = false →
      Served cfg pxQueue xItem s.w w' →
      RecvStep cfg s
        { s with w := w', bDelivering := decide (waiting w' R.xBaseSocket ≠ waiting s.w R.xBaseSocket) }
  | xEventGroupSetBits {s : RecvState} : s.bDelivering = true →
      RecvStep cfg s { s.setBits true false with bDelivering := false }
  /-- A task or an interrupt signals the socket. -/
  | signal {s : RecvState} : RecvStep cfg s (s.setBits false true)
  /-- Time passes, and other code runs: it takes no packet of the socket and gives it none. -/
  | other {s : RecvState} {w' : World} : waiting w' R.xBaseSocket = waiting s.w R.xBaseSocket →
      s.w.xTickCount ≤ w'.xTickCount → RecvStep cfg s { s with w := w' }

def recvSem (cfg : Config) : Sem RecvCalls RecvState := ⟨RecvEffect R, RecvStep R cfg⟩

def recvLoops : Loops RecvCalls RecvState RecvLoop := ⟨prvRecvmsg R, fun _ s => s⟩

/-- The states of a call that begins in `s₀`. -/
def RecvReachable (cfg : Config) (s₀ : RecvState) (c : Prog RecvCalls RecvLoop × RecvState) : Prop :=
  (recvLoops R).Reach (recvSem R cfg) (prvRecvmsg R .call, s₀) c

/-! ## What is expected -/

/-- The wait is over: there was none to begin with, or its time has passed. -/
def Expired (s : RecvState) : Prop :=
  s.called.1 = 0 ∨ hasFlag R.xFlags freertosMsgDontwait = true ∨
    s.called.1 ≠ portMaxDelay ∧ s.called.2 + s.called.1 ≤ s.w.xTickCount

/-- The socket was bound when the function began, and there is a message to fill. -/
def Valid (s : RecvState) : Prop := s.bBound = true ∧ R.pxMsghUser ≠ none

/-- What the function returns: what one atomic receive returns in a state with a packet, or that there was none and the
wait is over; and, if and only if the arguments are not valid, that they are not. -/
inductive Returns (s : RecvState) (r : Int × Option UserMsghdr) : Prop
  | took (w w' : World) : Valid R s → s.taken = some w →
      (hasFlag R.xFlags freertosMsgErrqueue = false → waiting w R.xBaseSocket ≠ []) →
      (freeRtosTsnRecvmsg R.xSocket R.pxMsghUser R.xFlags).run w = .ok r w' → Returns s r
  | wouldBlock : Valid R s → r = (-errnoEagain, R.pxMsghUser) → s.taken = none → s.counted = 0 → Expired R s →
      Returns s r
  | invalid : ¬Valid R s → r = (-errnoEinval, R.pxMsghUser) → s.taken = none → Returns s r

/-- The task is not blocked on a packet that nobody will tell it about, takes a packet only when there is one, and
returns what it should. -/
structure RecvSound (p : Prog RecvCalls RecvLoop) (s : RecvState) : Prop where
  blocked : ∀ k, p = .call (σ := RecvCalls) .blocked k →
    waiting s.w R.xBaseSocket = [] ∨ s.bDelivering = true ∨ s.xWaiter = none
  receive : hasFlag R.xFlags freertosMsgErrqueue = false → ∀ k, p = .call (σ := RecvCalls) .receive k →
    waiting s.w R.xBaseSocket ≠ []
  returned : ∀ r, p = .ret (.returned r) → Returns R s r

end FreeRtosTsn.Blocking
