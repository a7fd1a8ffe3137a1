import FreeRtosTsn.Resources.Lifecycle

/-!
# Timestamps of sent frames

The controller gives frames to the driver and reports their timestamps afterwards. In between other tasks use the
network buffers that the controller does not hold.
-/

namespace FreeRtosTsn.Resources

open Lib Kernel Packet

/-- `xTSN_NetworkInterfaceOutput` up to the answer of the driver. -/
def prvGiveToDriver (cfg : Config) (pxInterface : IfaceId) (pxBuffer : BufId) (bReleaseAfterSend : Bool) : M Bool := do
  if !(← prvInsertInterfaceTags cfg ((← get).interfaces pxInterface) pxBuffer) then
    return false
  xMacNetworkInterfaceOutput pxBuffer bReleaseAfterSend

/-- The rest of it follows when the driver took the frame. -/
theorem prvOutputFromController_eq (cfg : Config) (i : IfaceId) (b : BufId) (bReleaseAfterSend : Bool) :
    prvOutputFromController cfg i b bReleaseAfterSend = (do
      if !(← prvGiveToDriver cfg i b bReleaseAfterSend) then
        return false
      prvTimestampSent cfg b
      return true) := by
  rw [prvOutputFromController, prvGiveToDriver, bind_assoc]
  refine bind_congr fun w => ?_
  rw [bind_assoc]
  refine bind_congr fun bInserted => ?_
  cases bInserted with
  | false => rfl
  | true => rfl

/-- Between two steps of the controller. -/
structure TxState where
  w : World
  /-- The descriptor of a frame that the driver took, and the port it had then. -/
  pending : Option (BufId × UInt16)
  /-- Descriptors in the pool, or with other tasks. -/
  shared : List BufId
  /-- The reports that were due so far: the port of the frame, and the message that its report makes. -/
  due : List (UInt16 × Addr)

/-- The error queue of the TSN socket that is bound to a port. -/
def portQueue (w : World) (usPort : UInt16) : Option QueueHandle :=
  (prvLookup usPort w.xTSNBoundUDPSocketList).bind (errQueueOf w)

/-- The socket wants the timestamp of a sent frame, and there is memory for it. -/
def wantsReport (w : World) (t : Addr) : Bool :=
  match w.heap t with
  | some (.tsnSocket s) => hasFlag s.ulTSFlags sofTimestampingTxSoftware && w.env.pvPortMalloc (w.calls + 1)
  | _ => false

/-- The error queue that a report for a port goes to. -/
def reportQueue (w : World) (usPort : UInt16) : Option QueueHandle :=
  match prvLookup usPort w.xTSNBoundUDPSocketList with
  | some t => if wantsReport w t then errQueueOf w t else none
  | none => none

def rewritten (w : World) (b : BufId) (d : NetworkBufferDescriptor) (m : Mem) (n : Nat) : World :=
  ((w.setBuf b d).setMem b m).setCap b n

inductive TxAction
  | transmit
  | report
  | allocate
  | rewrite
  | queue

inductive TxStep (cfg : Config) : TxAction → TxState → TxState → Prop
  /-- What the step releases goes to the pool. -/
  | transmit {w w' : World} {shared : List BufId} {due : List (UInt16 × Addr)} {i : IfaceId} {b : BufId}
      {bReleaseAfterSend bSent : Bool} (hb : b ∉ shared)
      (hrun : (prvGiveToDriver cfg i b bReleaseAfterSend).run w = .ok bSent w') :
      TxStep cfg .transmit ⟨w, none, shared, due⟩
        ⟨w', if bSent then some (b, (w'.bufs b).usBoundPort) else none,
          (w'.released.drop w.released.length).map Prod.fst ++ shared, due⟩
  | report {w w' : World} {shared : List BufId} {due : List (UInt16 × Addr)} {b : BufId} {usBoundPort : UInt16}
      (hrun : (prvTimestampSent cfg b).run w = .ok () w') :
      TxStep cfg .report ⟨w, some (b, usBoundPort), shared, due⟩
        ⟨w', none, shared, if (reportQueue w usBoundPort).isSome then due ++ [(usBoundPort, w.calls)] else due⟩
  | allocate {w w' : World} {pending : Option (BufId × UInt16)} {shared : List BufId} {due : List (UInt16 × Addr)}
      {b : BufId} {n : Nat} (hrun : (pxGetNetworkBufferWithDescriptor n).run w = .ok (some b) w') :
      TxStep cfg .allocate ⟨w, pending, shared, due⟩ ⟨w', pending, b :: shared, due⟩
  | rewrite {w : World} {pending : Option (BufId × UInt16)} {shared : List BufId} {due : List (UInt16 × Addr)}
      {b : BufId} (d : NetworkBufferDescriptor) (m : Mem) (n : Nat) (hb : b ∈ shared) :
      TxStep cfg .rewrite ⟨w, pending, shared, due⟩ ⟨rewritten w b d m n, pending, shared, due⟩
  /-- A task queues its packet for the controller. -/
  | queue {w : World} {pending : Option (BufId × UInt16)} {shared : List BufId} {due : List (UInt16 × Addr)}
      (b : BufId) :
      TxStep cfg .queue ⟨w, pending, shared, due⟩ ⟨w, pending, shared.filter (· ≠ b), due⟩

/-- The report finds the socket of the port that the frame was sent from, and room in its error queue. -/
def TxAction.FindsSender (cfg : Config) (s : TxState) : TxAction → Prop
  | .report => ∀ b usBoundPort, s.pending = some (b, usBoundPort) →
      reportQueue s.w (s.w.bufs b).usBoundPort = reportQueue s.w usBoundPort ∧
        ∀ q, reportQueue s.w usBoundPort = some q → (s.w.errQueues q).length < cfg.tsnconfigErrqueueLength
  | _ => True

/-- The states that are reached when all reports find their sender. -/
inductive TxRun (cfg : Config) (s₀ : TxState) : TxState → Prop
  | start : TxRun cfg s₀ s₀
  | step {s s' : TxState} {a : TxAction} : TxRun cfg s₀ s → a.FindsSender cfg s → TxStep cfg a s s' →
      TxRun cfg s₀ s'

/-- The messages that are due for an error queue. -/
def dueFor (w₀ : World) (due : List (UInt16 × Addr)) (q : QueueHandle) : List Addr :=
  (due.filter fun r => portQueue w₀ r.1 == some q).map Prod.snd

/-- There is a message for each report that was due and no other, in the error queue of the TSN socket bound to the port
of its frame and in no other. -/
structure TimestampsExact (w₀ : World) (s : TxState) : Prop where
  errQueues : ∀ q, s.w.errQueues q = w₀.errQueues q ++ dueFor w₀ s.due q
  messages : ∀ a, (∃ m, s.w.heap a = some (.msghdr m)) ↔
    (∃ m, w₀.heap a = some (.msghdr m)) ∨ a ∈ s.due.map Prod.snd

end FreeRtosTsn.Resources
