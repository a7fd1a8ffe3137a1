import FreeRtosTsn.Lib.Hook
import FreeRtosTsn.Packet.Spec
import FreeRtosTsn.Resources.Timestamps

/-!
# The timebase of the user

Whether the packets of TSN sockets get to the callbacks of a timebase that was not installed. The way of a packet is
given the function that fills the control messages, and that function the one that acquires a timestamp; with those of
the code each is the function of the code.
-/

namespace FreeRtosTsn.Resources

open Lib Kernel Packet Scheduler

/-! ## Installing it -/

/-- A function of the user, by its address. -/
abbrev Callback := Nat

/-- `TimebaseHandle_t`: a null pointer is `none`. -/
structure TimebaseHandle where
  fnStart : Option Callback
  fnStop : Option Callback
  fnGetTime : Option Callback
  fnSetTime : Option Callback
  fnAdjTime : Option Callback
  deriving DecidableEq, Repr

/-- The handle of the code is zero until the first one that is complete is copied to it. -/
def xTimebaseHandleSet (pxTimebase : TimebaseHandle) : M Bool := do
  if (← get).xTimebaseState ≠ .eTimebaseNotInitialised then
    return false
  if pxTimebase.fnStart.isNone || pxTimebase.fnStop.isNone || pxTimebase.fnGetTime.isNone ||
      pxTimebase.fnSetTime.isNone || pxTimebase.fnAdjTime.isNone then
    return false
  modify fun w => { w with xTimebaseState := .eTimebaseEnabled, bTimebaseHandleSet := true }
  return true

/-! ## Filling the control messages -/

/-- `prvAncillaryMsgControlFillForRx` and `prvAncillaryMsgControlFillForTx`: the message and the socket. -/
abbrev Fill := Addr → Addr → M Nat

def prvAncillaryMsgControlFillForRxBy (acquire : M Timespec) : Fill := fun pxMsgh pxTSNSocket => do
  let s ← loadTsnSocket pxTSNSocket
  if hasFlag s.ulTSFlags sofTimestampingRxSoftware && (← get).xTimebaseState == .eTimebaseEnabled then
    let ts ← acquire
    if ← xAncillaryMsgControlFill pxMsgh [⟨freertosSolSocket, freertosScmTimestamping, scmTimestamping ts⟩] then
      return 1
    else
      return 0
  else
    prvClearControl pxMsgh
    return 0

def prvAncillaryMsgControlFillForTxBy (acquire : M Timespec) : Fill := fun pxMsgh pxTSNSocket => do
  let s ← loadTsnSocket pxTSNSocket
  if hasFlag s.ulTSFlags sofTimestampingTxSoftware then
    let x ← loadBaseSocket s.xBaseSocket
    let ts ← acquire
    if ← xAncillaryMsgControlFill pxMsgh
        [sockExtendedErr x.bIsIPv6, ⟨freertosSolSocket, freertosScmTimestamping, scmTimestamping ts⟩] then
      let m ← loadMsghdr pxMsgh
      storeMsghdr pxMsgh { m with msgFlags := m.msgFlags ||| freertosMsgErrqueue }
      return 2
    else
      return 0
  else
    prvClearControl pxMsgh
    return 0

theorem prvAncillaryMsgControlFillForRxBy_eq :
    prvAncillaryMsgControlFillForRxBy vTimestampAcquireSoftware = prvAncillaryMsgControlFillForRx := rfl

theorem prvAncillaryMsgControlFillForTxBy_eq :
    prvAncillaryMsgControlFillForTxBy vTimestampAcquireSoftware = prvAncillaryMsgControlFillForTx := rfl

/-- What either does for a socket that did not ask for timestamps. -/
def prvFillNothing : Fill := fun pxMsgh pxTSNSocket => do
  let _ ← loadTsnSocket pxTSNSocket
  prvClearControl pxMsgh
  return 0

/-! ## The ways of a packet -/

def prvBuildMsghBy (fill : Fill) (pxBuf : BufId) (pxTSNSocket : Addr) (f : ParsedFrame) : M Addr := do
  let pxMsgh ← pxAncillaryMsgMalloc
  let _ ← fill pxMsgh pxTSNSocket
  prvFillName pxMsgh f
  let d ← loadBuf pxBuf
  let _ ← xAncillaryMsgFillPayload pxMsgh d.pucEthernetBuffer d.xDataLength
  return pxMsgh

def prvMsghForBy (fill : Fill) (pxBuf : BufId) (f : ParsedFrame) : M (Option (Option Addr)) := do
  if f.usDestinationPort = 0 then
    return some none
  match ← vSocketFromPort f.usDestinationPort with
  | (_, some pxTSNSocket) => return some (some (← prvBuildMsghBy fill pxBuf pxTSNSocket f))
  | (some _, none) => return some none
  | (none, none) => return none

def prvHandleReceiveBy (fill : Fill) (pxBuf : BufId) : M (Option NetworkQueueItem) := do
  let f ← prvParseFrame pxBuf
  match ← prvMsghForBy fill pxBuf f with
  | none => return none
  | some pxMsgh =>
      let xItem : NetworkQueueItem := ⟨.eNetworkRxEvent, some pxBuf, pxMsgh, true⟩
      match ← pvPortMalloc (.item xItem) with
      | none => return none
      | some _ => return some xItem

/-- The driver passes a received frame. -/
def xReceiveBy (fill : Fill) (cfg : Config) (pxBuf : BufId) (uxTimeout : Nat) : M Bool := do
  match ← prvHandleReceiveBy fill pxBuf with
  | none => return false
  | some pxItem => exec cfg (xNetworkQueueInsertPacketByFilter cfg pxItem uxTimeout)

theorem xReceiveBy_eq (cfg : Config) (pxBuf : BufId) (uxTimeout : Nat) :
    xReceiveBy prvAncillaryMsgControlFillForRx cfg pxBuf uxTimeout =
      xSendEventStructToTsnController cfg .eNetworkRxEvent pxBuf uxTimeout := rfl

def prvReportSentBy (fill : Fill) (cfg : Config) (pxTSNSocket : Addr) : M Unit := do
  let pxMsgh ← pxAncillaryMsgMalloc
  if (← fill pxMsgh pxTSNSocket) > 0 then
    let _ ← xAncillaryMsgFillName pxMsgh none 0 0
    let _ ← xSocketErrorQueueInsert cfg pxTSNSocket pxMsgh
  else
    vAncillaryMsgFree pxMsgh

def prvTimestampSentBy (fill : Fill) (cfg : Config) (pxBuffer : BufId) : M Unit := do
  let (_, xTSNSocket) ← vSocketFromPort (← loadBuf pxBuffer).usBoundPort
  match xTSNSocket with
  | some pxTSNSocket => prvReportSentBy fill cfg pxTSNSocket
  | none => return ()

def prvOutputFromControllerBy (fill : Fill) (cfg : Config) (pxInterface : IfaceId) (pxBuffer : BufId)
    (bReleaseAfterSend : Bool) : M Bool := do
  if !(← prvGiveToDriver cfg pxInterface pxBuffer bReleaseAfterSend) then
    return false
  prvTimestampSentBy fill cfg pxBuffer
  return true

def xTsnNetworkInterfaceOutputBy (fill : Fill) (cfg : Config) (pxInterface : IfaceId) (pxBuffer : BufId)
    (bReleaseAfterSend : Bool) : M Bool := do
  if (← get).bCallingFromController then
    prvOutputFromControllerBy fill cfg pxInterface pxBuffer bReleaseAfterSend
  else
    exec cfg (xNetworkQueueInsertPacketByFilter cfg ⟨.eNetworkTxEvent, some pxBuffer, none, bReleaseAfterSend⟩
      cfg.tsnconfigDefaultQueueTimeout)

theorem xTsnNetworkInterfaceOutputBy_eq (cfg : Config) (pxInterface : IfaceId) (pxBuffer : BufId)
    (bReleaseAfterSend : Bool) :
    xTsnNetworkInterfaceOutputBy prvAncillaryMsgControlFillForTx cfg pxInterface pxBuffer bReleaseAfterSend =
      xTsnNetworkInterfaceOutput cfg pxInterface pxBuffer bReleaseAfterSend := by
  unfold xTsnNetworkInterfaceOutputBy xTsnNetworkInterfaceOutput
  rw [prvOutputFromController_eq]
  rfl

/-! ## Runs -/

inductive TimebaseAction
  | handleSet (pxTimebase : TimebaseHandle)
  | setsockopt (xSocket : Addr) (lOptionName ulOptionValue : Int)
  | receive (pxBuf : BufId) (uxTimeout : Nat)
  | transmit (pxInterface : IfaceId) (pxBuffer : BufId) (bReleaseAfterSend : Bool)

/-- The code of an action, up to what it returns. -/
def TimebaseAction.code (cfg : Config) : TimebaseAction → M Unit
  | .handleSet pxTimebase => do
      let _ ← xTimebaseHandleSet pxTimebase
  | .setsockopt xSocket lOptionName ulOptionValue => do
      let _ ← freeRtosTsnSetsockopt cfg xSocket lOptionName ulOptionValue
  | .receive pxBuf uxTimeout => do
      let _ ← xSendEventStructToTsnController cfg .eNetworkRxEvent pxBuf uxTimeout
  | .transmit pxInterface pxBuffer bReleaseAfterSend => do
      let _ ← xTsnNetworkInterfaceOutput cfg pxInterface pxBuffer bReleaseAfterSend

/-- The variables of FreeRTOS_TSN_Timebase.c: the state, and whether the handle was set. -/
def timebaseOf (w : World) : TimebaseState × Bool := (w.xTimebaseState, w.bTimebaseHandleSet)

/-- The actions so far, each with the state it began in, and the state now; there is none after a fault. -/
inductive TimebaseRun (cfg : Config) : List (World × TimebaseAction) → Option World → Prop
  | boot (env : Env) : TimebaseRun cfg [] (some (World.boot env))
  /-- The rest of the node: sockets are created and bound, packets are queued and delivered. -/
  | other {log : List (World × TimebaseAction)} {w w' : World} : TimebaseRun cfg log (some w) →
      Same timebaseOf w w' → TimebaseRun cfg log (some w')
  | act {log : List (World × TimebaseAction)} {w w' : World} {a : TimebaseAction} : TimebaseRun cfg log (some w) →
      (a.code cfg).run w = .ok () w' → TimebaseRun cfg (log ++ [(w, a)]) (some w')
  | fault {log : List (World × TimebaseAction)} {w w' : World} {a : TimebaseAction} {e : Fault} :
      TimebaseRun cfg log (some w) → (a.code cfg).run w = .error e w' → TimebaseRun cfg (log ++ [(w, a)]) none

/-! ## What is expected -/

/-- `fnGetTime` is invoked only when the timebase is enabled and its handle set. When it is not enabled, the packet is
handled like that of a socket without timestamps. -/
structure Guarded {α : Type} (path : Fill → M α) (fillBy : M Timespec → Fill) (w : World) : Prop where
  invoked : ∀ w', Invokes (fun acquire => path (fillBy acquire)) w w' →
    w'.xTimebaseState = .eTimebaseEnabled ∧ w'.bTimebaseHandleSet = true
  otherwise : w.xTimebaseState ≠ .eTimebaseEnabled →
    (path (fillBy vTimestampAcquireSoftware)).run w = (path prvFillNothing).run w

/-- The packet of an action is handled so. The other actions invoke no callback. -/
def TimebaseAction.Guarded (cfg : Config) (w : World) : TimebaseAction → Prop
  | .handleSet _ => True
  | .setsockopt _ _ _ => True
  | .receive pxBuf uxTimeout =>
      Resources.Guarded (fun fill => xReceiveBy fill cfg pxBuf uxTimeout) prvAncillaryMsgControlFillForRxBy w
  | .transmit pxInterface pxBuffer bReleaseAfterSend =>
      Resources.Guarded (fun fill => xTsnNetworkInterfaceOutputBy fill cfg pxInterface pxBuffer bReleaseAfterSend)
        prvAncillaryMsgControlFillForTxBy w

/-! ## When it is so -/

/-- The frame is in an Ethernet buffer, which can be resized for each tag, and the driver takes it. -/
structure DriverTakes (cfg : Config) (w : World) (i : IfaceId) (b : BufId) : Prop where
  pucEthernetBuffer : ∃ c off, (w.bufs b).pucEthernetBuffer = .eth c off
  resized : ∀ k < uxInsertedTags cfg (w.interfaces i), w.env.pxResizeNetworkBufferWithDescriptor (w.calls + k) = true
  sent : w.env.xMacNetworkInterfaceOutput (w.calls + uxInsertedTags cfg (w.interfaces i)) = true

/-- The number of the allocation that follows. -/
def msghOfSent (cfg : Config) (w : World) (i : IfaceId) : Addr := w.calls + uxInsertedTags cfg (w.interfaces i) + 1

/-- The controller sends a frame from the port of the TSN socket `s` at `t`, and there is memory for a message. -/
structure SentFor (cfg : Config) (w : World) (i : IfaceId) (b : BufId) (t : Addr) (s : TSNSocket) : Prop where
  controller : w.bCallingFromController = true
  driver : DriverTakes cfg w i b
  bound : prvLookup (w.bufs b).usBoundPort w.xTSNBoundUDPSocketList = some t
  socket : w.heap t = some (.tsnSocket s)
  msgh : w.env.pvPortMalloc (msghOfSent cfg w i) = true

/-- A socket with `SOF_TIMESTAMPING_TX_SOFTWARE`, whose block is not the new message. -/
def AsksForTx (cfg : Config) (w : World) (i : IfaceId) (b : BufId) : Prop :=
  ∃ t s, SentFor cfg w i b t s ∧ t ≠ msghOfSent cfg w i ∧ hasFlag s.ulTSFlags sofTimestampingTxSoftware = true

/-- A frame whose timestamp is asked for is sent when the timebase is enabled. -/
def TimebaseAction.Fits (cfg : Config) (w : World) : TimebaseAction → Prop
  | .transmit pxInterface pxBuffer _ => w.xTimebaseState = .eTimebaseEnabled ∨ ¬AsksForTx cfg w pxInterface pxBuffer
  | _ => True

end FreeRtosTsn.Resources
