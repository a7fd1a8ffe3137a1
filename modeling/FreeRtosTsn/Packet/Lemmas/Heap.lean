import FreeRtosTsn.Packet.Deliver

/-!
# Code that works on the heap only

Messages are built and freed without touching anything but the heap.
-/

namespace FreeRtosTsn.Packet

open Lib Kernel

/-- Nothing but the heap changed. -/
structure HeapStep (w w' : World) : Prop where
  eq : w' = { w with calls := w'.calls, heap := w'.heap, freed := w'.freed }
  calls_le : w.calls ≤ w'.calls

instance : IsPreorder World HeapStep where
  refl _ := ⟨rfl, Nat.le_refl _⟩
  trans a b c h h' := by
    refine ⟨?_, Nat.le_trans h.calls_le h'.calls_le⟩
    have := h'.eq
    rw [h.eq] at this
    exact this

namespace HeapStep

variable {w w' : World} (h : HeapStep w w')
include h

theorem tick : HeapStep w w'.tick := trans_of HeapStep h ⟨rfl, Nat.le_succ _⟩

theorem setBlock (a : Addr) (b : Option Block) : HeapStep w (w'.setBlock a b) := ⟨by rw [h.eq]; rfl, h.calls_le⟩

theorem bufs : w'.bufs = w.bufs := by rw [h.eq]

theorem mem : w'.mem = w.mem := by rw [h.eq]

end HeapStep

/-! ## The heap -/

theorem pvPortMalloc_heapStep (b : Block) : Keeps HeapStep (pvPortMalloc b) := by
  apply Keeps.get
  intro w
  split
  · exact ⟨rfl, Nat.le_succ _⟩
  · exact ⟨rfl, Nat.le_succ _⟩

theorem vPortFree_heapStep (a : Addr) : Keeps HeapStep (vPortFree a) := by
  apply Keeps.get
  intro w
  split
  · exact refl_of HeapStep w
  · exact ⟨rfl, Nat.le_refl _⟩

theorem deref_heapStep {α : Type} (p : Option α) : Keeps HeapStep (Kernel.deref p) := by
  cases p with
  | none => exact Keeps.throw _
  | some a => exact Keeps.pure _

theorem loadBlock_heapStep {α : Type} (f : Block → Option α) (a : Addr) : Keeps HeapStep (loadBlock f a) := by
  apply Keeps.get
  intro w
  split
  · exact refl_of HeapStep w
  · exact refl_of HeapStep w

theorem storeBlock_heapStep (a : Addr) (b : Block) : Keeps HeapStep (storeBlock a b) :=
  Keeps.modify fun _ => ⟨rfl, Nat.le_refl _⟩

theorem loadMsghdr_heapStep (a : Addr) : Keeps HeapStep (loadMsghdr a) := loadBlock_heapStep _ a

theorem storeMsghdr_heapStep (a : Addr) (m : Msghdr) : Keeps HeapStep (storeMsghdr a m) := storeBlock_heapStep a _

theorem loadTsnSocket_heapStep (a : Addr) : Keeps HeapStep (loadTsnSocket a) := loadBlock_heapStep _ a

theorem loadBaseSocket_heapStep (s : SockId) : Keeps HeapStep (loadBaseSocket s) := by
  apply Keeps.get
  intro w
  split
  · exact refl_of HeapStep w
  · exact refl_of HeapStep w

/-! ## Messages -/

theorem pxAncillaryMsgMalloc_heapStep : Keeps HeapStep pxAncillaryMsgMalloc :=
  (pvPortMalloc_heapStep _).bind fun p =>
    (deref_heapStep p).bind fun a =>
      (storeMsghdr_heapStep a {}).bind fun _ => Keeps.pure a

theorem updateMsghdr_heapStep {α : Type} (a : Addr) (f : Msghdr → Msghdr) (r : α) :
    Keeps HeapStep (do
      let m ← loadMsghdr a
      storeMsghdr a (f m)
      return r) :=
  (loadMsghdr_heapStep a).bind fun m =>
    (storeMsghdr_heapStep a (f m)).bind fun _ => Keeps.pure r

theorem xAncillaryMsgFillName_heapStep (a : Addr) (xAddr : Option IPAddress) (usPort : UInt16) (xFamily : UInt8) :
    Keeps HeapStep (xAncillaryMsgFillName a xAddr usPort xFamily) := by
  cases xAddr with
  | none => exact updateMsghdr_heapStep a _ true
  | some x =>
      apply (pvPortMalloc_heapStep _).bind
      intro p
      cases p with
      | none => exact Keeps.pure _
      | some n => exact updateMsghdr_heapStep a _ true

theorem xAncillaryMsgFillPayload_heapStep (a : Addr) (p : Ptr) (n : Nat) :
    Keeps HeapStep (xAncillaryMsgFillPayload a p n) := by
  apply (pvPortMalloc_heapStep _).bind
  intro v
  cases v with
  | none => exact Keeps.pure _
  | some v => exact updateMsghdr_heapStep a _ true

theorem xAncillaryMsgControlFill_heapStep (a : Addr) (cs : List ControlMsg) :
    Keeps HeapStep (xAncillaryMsgControlFill a cs) := by
  apply Keeps.get
  intro w
  apply Keeps.bind (pvPortMalloc_heapStep _)
  intro p
  cases p with
  | none => exact updateMsghdr_heapStep a _ false
  | some c =>
      apply (loadMsghdr_heapStep a).bind
      intro m
      apply (storeMsghdr_heapStep a _).bind
      intro _
      dsimp only
      split
      · exact (storeBlock_heapStep c _).bind fun _ => Keeps.pure true
      · exact (vPortFree_heapStep c).bind fun _ => updateMsghdr_heapStep a _ false

theorem prvClearControl_heapStep (a : Addr) : Keeps HeapStep (prvClearControl a) :=
  (loadMsghdr_heapStep a).bind fun _ => storeMsghdr_heapStep a _

theorem vTimestampAcquireSoftware_heapStep : Keeps HeapStep vTimestampAcquireSoftware := by
  apply Keeps.get
  intro w
  cases w.bTimebaseHandleSet with
  | false => exact refl_of HeapStep w
  | true => exact refl_of HeapStep w

theorem prvAncillaryMsgControlFillForTx_heapStep (a s : Addr) : Keeps HeapStep (prvAncillaryMsgControlFillForTx a s) := by
  apply (loadTsnSocket_heapStep s).bind
  intro x
  apply Keeps.ite
  · apply (loadBaseSocket_heapStep _).bind
    intro _
    apply vTimestampAcquireSoftware_heapStep.bind
    intro ts
    apply (xAncillaryMsgControlFill_heapStep a _).bind
    intro ok
    apply Keeps.ite
    · exact updateMsghdr_heapStep a _ 2
    · exact Keeps.pure _
  · exact (prvClearControl_heapStep a).bind fun _ => Keeps.pure _

theorem prvAncillaryMsgControlFillForRx_heapStep (a s : Addr) : Keeps HeapStep (prvAncillaryMsgControlFillForRx a s) := by
  apply (loadTsnSocket_heapStep s).bind
  intro x
  apply Keeps.get
  intro w
  have hclear : Keeps HeapStep (prvClearControl a >>= fun _ => (pure 0 : M Nat)) :=
    (prvClearControl_heapStep a).bind fun _ => Keeps.pure 0
  split
  · apply vTimestampAcquireSoftware_heapStep.bind
    intro ts
    apply (xAncillaryMsgControlFill_heapStep a _).bind
    intro ok
    exact Keeps.ite (Keeps.pure _) (Keeps.pure _)
  · exact hclear w

/-! ## Sent frames -/

/-- The network buffers, with what was released and what was sent. -/
def buffersOf (w : World) : (BufId → NetworkBufferDescriptor) × (BufId → Mem) × List (BufId × Ptr) × List (List UInt8) :=
  (w.bufs, w.mem, w.released, w.macFrames)

theorem HeapStep.buffersOf (w w' : World) (h : HeapStep w w') : Same buffersOf w w' := by
  unfold Same Packet.buffersOf
  rw [h.eq]

theorem vSocketFromPort_heapStep (usPort : UInt16) : Keeps HeapStep (vSocketFromPort usPort) := by
  apply Keeps.get
  intro w
  split
  · exact (loadTsnSocket_heapStep _).bind (fun _ => Keeps.pure _) w
  · exact refl_of HeapStep w

section Report

variable {R : World → World → Prop} [IsPreorder World R]

/-- A report works on the heap and on one error queue. -/
theorem xSocketErrorQueueInsert_keeps (hheap : ∀ w w', HeapStep w w' → R w w')
    (hqueue : ∀ (w : World) q as, R w (w.setErrQueue q as)) (cfg : Config) (s a : Addr) :
    Keeps R (xSocketErrorQueueInsert cfg s a) := by
  apply ((loadTsnSocket_heapStep s).mono hheap).bind
  intro x
  apply Keeps.get
  intro w
  split
  · exact hqueue w _ _
  · exact refl_of R w

theorem prvReportSent_keeps (hheap : ∀ w w', HeapStep w w' → R w w')
    (hqueue : ∀ (w : World) q as, R w (w.setErrQueue q as)) (cfg : Config) (s : Addr) :
    Keeps R (prvReportSent cfg s) := by
  apply (pxAncillaryMsgMalloc_heapStep.mono hheap).bind
  intro a
  apply ((prvAncillaryMsgControlFillForTx_heapStep a s).mono hheap).bind
  intro n
  apply Keeps.ite
  · apply ((xAncillaryMsgFillName_heapStep a none 0 0).mono hheap).bind
    intro _
    exact (xSocketErrorQueueInsert_keeps hheap hqueue cfg s a).bind fun _ => Keeps.pure _
  · exact (vPortFree_heapStep a).mono hheap

theorem prvTimestampSent_keeps (hheap : ∀ w w', HeapStep w w' → R w w')
    (hqueue : ∀ (w : World) q as, R w (w.setErrQueue q as)) (cfg : Config) (b : BufId) :
    Keeps R (prvTimestampSent cfg b) := by
  apply Keeps.get
  intro w
  apply ((vSocketFromPort_heapStep _).mono hheap).bind
  rintro ⟨xSocket, xTSNSocket⟩
  cases xTSNSocket with
  | some pxTSNSocket => exact prvReportSent_keeps hheap hqueue cfg pxTSNSocket
  | none => exact Keeps.pure _

end Report

theorem prvTimestampSent_buffersOf (cfg : Config) (b : BufId) : Keeps (Same buffersOf) (prvTimestampSent cfg b) :=
  prvTimestampSent_keeps HeapStep.buffersOf (fun _ _ _ => rfl) cfg b

/-! ## Received frames -/

theorem prvFillName_heapStep (a : Addr) (f : ParsedFrame) : Keeps HeapStep (prvFillName a f) := by
  apply Keeps.ite
  · exact (xAncillaryMsgFillName_heapStep a _ _ _).bind fun _ => Keeps.pure ()
  · apply Keeps.ite
    · exact (xAncillaryMsgFillName_heapStep a _ _ _).bind fun _ => Keeps.pure ()
    · exact Keeps.pure ()

theorem prvBuildMsgh_heapStep (b : BufId) (s : Addr) (f : ParsedFrame) : Keeps HeapStep (prvBuildMsgh b s f) :=
  pxAncillaryMsgMalloc_heapStep.bind fun a =>
    (prvAncillaryMsgControlFillForRx_heapStep a s).bind fun _ =>
      (prvFillName_heapStep a f).bind fun _ => Keeps.get fun w =>
        ((xAncillaryMsgFillPayload_heapStep a _ _).bind fun _ => Keeps.pure a) w

theorem prvMsghFor_heapStep (b : BufId) (f : ParsedFrame) : Keeps HeapStep (prvMsghFor b f) := by
  apply Keeps.ite
  · exact Keeps.pure _
  · apply (vSocketFromPort_heapStep _).bind
    rintro ⟨xSocket, xTSNSocket⟩
    cases xTSNSocket with
    | some s => exact (prvBuildMsgh_heapStep b s f).bind fun _ => Keeps.pure _
    | none =>
        cases xSocket with
        | some x => exact Keeps.pure _
        | none => exact Keeps.pure _

end FreeRtosTsn.Packet
