import FreeRtosTsn.Packet.Lemmas.Report
import FreeRtosTsn.Packet.Lemmas.Take
import FreeRtosTsn.Resources.Lemmas.Live
import FreeRtosTsn.Resources.Timestamps

/-!
# Timestamps of sent frames

Nothing but a report touches messages and error queues, and a report is decided by the port that it finds in the
descriptor.
-/

namespace FreeRtosTsn.Resources

open Lib Kernel Packet

variable {cfg : Config} {w₀ w w' : World} {t : Addr} {b : BufId}

/-! ## Steps that work on network buffers only -/

/-- Nothing but network buffers changed. -/
structure BuffersOnly (w w' : World) : Prop where
  eq : w' = { w with
    calls := w'.calls, bufs := w'.bufs, mem := w'.mem, cap := w'.cap, released := w'.released,
    overruns := w'.overruns, macFrames := w'.macFrames }
  calls_le : w.calls ≤ w'.calls

instance : IsPreorder World BuffersOnly where
  refl _ := ⟨rfl, Nat.le_refl _⟩
  trans a b c h h' := by
    refine ⟨?_, Nat.le_trans h.calls_le h'.calls_le⟩
    have := h'.eq
    rw [h.eq] at this
    exact this

theorem nextCall_buffersOnly : Keeps BuffersOnly nextCall := fun _ => ⟨rfl, Nat.le_succ _⟩

theorem Reads.buffersOnly (w w' : World) (h : Reads w w') : BuffersOnly w w' := by
  rw [h.eq]
  exact ⟨rfl, Nat.le_refl _⟩

theorem ethOf_buffersOnly (p : Ptr) : Keeps BuffersOnly (ethOf p) := (ethOf_reads p).mono Reads.buffersOnly

theorem checkAccess_buffersOnly (b : BufId) (off n : Nat) : Keeps BuffersOnly (checkAccess b off n) :=
  (checkAccess_reads b off n).mono Reads.buffersOnly

theorem loadBuf_buffersOnly (b : BufId) : Keeps BuffersOnly (loadBuf b) := fun w => refl_of BuffersOnly w

theorem modifyBuf_buffersOnly (b : BufId) (f : NetworkBufferDescriptor → NetworkBufferDescriptor) :
    Keeps BuffersOnly (modifyBuf b f) := Keeps.modify fun _ => ⟨rfl, Nat.le_refl _⟩

theorem vReleaseNetworkBufferAndDescriptor_buffersOnly (b : BufId) :
    Keeps BuffersOnly (vReleaseNetworkBufferAndDescriptor b) := Keeps.modify fun _ => ⟨rfl, Nat.le_refl _⟩

theorem readBytes_buffersOnly (p : Ptr) (n : Nat) : Keeps BuffersOnly (readBytes p n) :=
  (readBytes_reads p n).mono Reads.buffersOnly

theorem writeBytes_buffersOnly (p : Ptr) (off : Nat) (bs : List UInt8) : Keeps BuffersOnly (writeBytes p off bs) :=
  (ethOf_buffersOnly p).bind fun x => (checkAccess_buffersOnly x.1 _ _).bind fun _ =>
    Keeps.modify fun _ => ⟨rfl, Nat.le_refl _⟩

theorem moveBytes_buffersOnly (p : Ptr) (dst src n : Nat) : Keeps BuffersOnly (moveBytes p dst src n) :=
  (ethOf_buffersOnly p).bind fun x => (checkAccess_buffersOnly x.1 _ _).bind fun _ =>
    (checkAccess_buffersOnly x.1 _ _).bind fun _ => Keeps.modify fun _ => ⟨rfl, Nat.le_refl _⟩

theorem pxResizeNetworkBufferWithDescriptor_buffersOnly (b : BufId) (n : Nat) :
    Keeps BuffersOnly (pxResizeNetworkBufferWithDescriptor b n) := by
  apply nextCall_buffersOnly.bind
  intro k
  apply Keeps.get
  intro w
  split
  · exact ⟨rfl, Nat.le_refl _⟩
  · exact refl_of BuffersOnly w

theorem pxGetNetworkBufferWithDescriptor_buffersOnly (n : Nat) :
    Keeps BuffersOnly (pxGetNetworkBufferWithDescriptor n) := by
  apply nextCall_buffersOnly.bind
  intro k
  apply Keeps.get
  intro w
  split
  · exact ⟨rfl, Nat.le_refl _⟩
  · exact refl_of BuffersOnly w

theorem prvInsertVLANTag_buffersOnly (b : BufId) (usTCI usTPID : UInt16) :
    Keeps BuffersOnly (prvInsertVLANTag b usTCI usTPID) := by
  apply (loadBuf_buffersOnly b).bind
  intro d
  apply (pxResizeNetworkBufferWithDescriptor_buffersOnly b _).bind
  intro r
  cases r with
  | none => exact (vReleaseNetworkBufferAndDescriptor_buffersOnly b).bind fun _ => Keeps.pure _
  | some c =>
      exact (modifyBuf_buffersOnly c _).bind fun _ => (loadBuf_buffersOnly c).bind fun d =>
        (loadBuf_buffersOnly b).bind fun _ => (moveBytes_buffersOnly d.pucEthernetBuffer _ _ _).bind fun _ =>
          (writeBytes_buffersOnly d.pucEthernetBuffer _ _).bind fun _ =>
            (writeBytes_buffersOnly d.pucEthernetBuffer _ _).bind fun _ => Keeps.pure _

theorem prvInsertInterfaceTags_buffersOnly (c : NetworkInterfaceConfig) (b : BufId) :
    Keeps BuffersOnly (prvInsertInterfaceTags cfg c b) := by
  apply Keeps.ite
  · apply Keeps.ite
    · apply (prvInsertVLANTag_buffersOnly b _ _).bind
      intro r
      cases r with
      | none => exact Keeps.pure _
      | some b' =>
          apply Keeps.ite
          · apply (prvInsertVLANTag_buffersOnly b' _ _).bind
            intro r'
            cases r' with
            | none => exact Keeps.pure _
            | some _ => exact Keeps.pure _
          · exact Keeps.pure _
    · exact Keeps.pure _
  · exact Keeps.pure _

theorem xMacNetworkInterfaceOutput_buffersOnly (b : BufId) (bReleaseAfterSend : Bool) :
    Keeps BuffersOnly (xMacNetworkInterfaceOutput b bReleaseAfterSend) := by
  apply nextCall_buffersOnly.bind
  intro n
  apply (loadBuf_buffersOnly b).bind
  intro d
  apply (readBytes_buffersOnly d.pucEthernetBuffer d.xDataLength).bind
  intro bs
  apply Keeps.get
  intro w
  dsimp only
  cases w.env.xMacNetworkInterfaceOutput n <;> cases bReleaseAfterSend <;> exact ⟨rfl, Nat.le_refl _⟩

theorem prvGiveToDriver_buffersOnly (i : IfaceId) (b : BufId) (bReleaseAfterSend : Bool) :
    Keeps BuffersOnly (prvGiveToDriver cfg i b bReleaseAfterSend) := by
  apply Keeps.get
  intro w
  apply (prvInsertInterfaceTags_buffersOnly _ b).bind
  intro bInserted
  cases bInserted with
  | false => exact Keeps.pure _
  | true => exact xMacNetworkInterfaceOutput_buffersOnly b _

/-! ## A report -/

theorem wantsReport_of_heap {s : TSNSocket} (hs : w.heap t = some (.tsnSocket s)) :
    wantsReport w t = true ↔ Reports w s := by
  simp [wantsReport, hs, Reports]

theorem reportQueue_of_lookup {usPort : UInt16} (hl : prvLookup usPort w.xTSNBoundUDPSocketList = some t) :
    reportQueue w usPort = if wantsReport w t then errQueueOf w t else none := by
  rw [reportQueue, hl]

theorem portQueue_of_reportQueue {usPort : UInt16} {q : QueueHandle} (h : reportQueue w usPort = some q) :
    portQueue w usPort = some q := by
  rw [reportQueue] at h
  rw [portQueue]
  split at h
  · rename_i t hl
    split at h
    · rw [hl, Option.bind_some, h]
    · cases h
  · cases h

/-- How a report ends, by the error queue that the port in the descriptor leads to. -/
inductive TimestampOutcome (cfg : Config) (w : World) : Option QueueHandle → World → Prop
  | nothing {w' : World} : w' = { w with calls := w'.calls, freed := w'.freed } → w.calls ≤ w'.calls →
      TimestampOutcome cfg w none w'
  | queued {q : QueueHandle} {m : Msghdr} {bs : List UInt8} :
      (w.errQueues q).length < cfg.tsnconfigErrqueueLength →
      TimestampOutcome cfg w (some q) ((reportedWorld w m bs).setErrQueue q (w.errQueues q ++ [w.calls]))
  | dropped {q : QueueHandle} {m : Msghdr} {bs : List UInt8} :
      ¬(w.errQueues q).length < cfg.tsnconfigErrqueueLength →
      TimestampOutcome cfg w (some q) (reportedWorld w m bs)

theorem prvTimestampSent_inv (hfresh : ∀ y, w.calls ≤ y → w.heap y = none)
    (hrun : (prvTimestampSent cfg b).run w = .ok () w') :
    TimestampOutcome cfg w (reportQueue w (w.bufs b).usBoundPort) w' := by
  rw [prvTimestampSent, run_bind_ok (run_loadBuf w b)] at hrun
  cases hl : prvLookup (w.bufs b).usBoundPort w.xTSNBoundUDPSocketList with
  | none =>
      rw [run_bind_ok (run_vSocketFromPort_plain hl)] at hrun
      cases hrun
      rw [reportQueue, hl]
      exact .nothing rfl (Nat.le_refl _)
  | some t =>
      have hload : ∃ s, w.heap t = some (.tsnSocket s) := by
        rw [vSocketFromPort] at hrun
        obtain ⟨_, _, hfind, -⟩ := run_bind_inv hrun
        rw [run_bind_ok (EStateM.run_get w), hl] at hfind
        obtain ⟨s, _, hs, -⟩ := run_bind_inv hfind
        exact ⟨s, (loadTsnSocket_inv hs).2⟩
      obtain ⟨s, hs⟩ := hload
      rw [run_bind_ok (run_vSocketFromPort_tsn hl hs)] at hrun
      rw [reportQueue_of_lookup hl]
      cases prvReportSent_inv hfresh hs hrun with
      | nothing hno heq hle =>
          rw [if_neg (mt (wantsReport_of_heap hs).mp hno)]
          exact .nothing heq hle
      | queued hr hroom _ =>
          rw [if_pos ((wantsReport_of_heap hs).mpr hr), errQueueOf_of_heap hs]
          exact .queued hroom
      | dropped hr hfull =>
          rw [if_pos ((wantsReport_of_heap hs).mpr hr), errQueueOf_of_heap hs]
          exact .dropped hfull

/-! ## Runs -/

theorem dueFor_append (due : List (UInt16 × Addr)) (usPort : UInt16) (a : Addr) (q : QueueHandle) :
    dueFor w₀ (due ++ [(usPort, a)]) q = dueFor w₀ due q ++ if portQueue w₀ usPort = some q then [a] else [] := by
  by_cases h : portQueue w₀ usPort = some q
  · simp [dueFor, List.filter_append, h]
  · simp [dueFor, List.filter_append, h]

structure TxInv (w₀ : World) (s : TxState) : Prop where
  holds : TimestampsExact w₀ s
  fresh : ∀ y, s.w.calls ≤ y → s.w.heap y = none
  ports : portQueue s.w = portQueue w₀

theorem portQueue_congr (htsn : w'.xTSNBoundUDPSocketList = w.xTSNBoundUDPSocketList)
    (hq : ∀ t, errQueueOf w' t = errQueueOf w t) : portQueue w' = portQueue w := by
  funext usPort
  rw [portQueue, portQueue, htsn, funext hq]

namespace TxInv

variable {s : TxState}

/-- The messages and the error queues are the same, and no report was made. -/
theorem keep (h : TxInv w₀ s) (hb : BuffersOnly s.w w') (pending : Option (BufId × UInt16)) (shared : List BufId) :
    TxInv w₀ ⟨w', pending, shared, s.due⟩ := by
  have hheap : w'.heap = s.w.heap := by rw [hb.eq]
  have hqueues : w'.errQueues = s.w.errQueues := by rw [hb.eq]
  have htsn : w'.xTSNBoundUDPSocketList = s.w.xTSNBoundUDPSocketList := by rw [hb.eq]
  refine ⟨⟨fun q => ?_, fun a => ?_⟩, fun y hy => ?_, ?_⟩
  · rw [hqueues]
    exact h.holds.errQueues q
  · rw [hheap]
    exact h.holds.messages a
  · rw [hheap]
    exact h.fresh y (Nat.le_trans hb.calls_le hy)
  · exact (portQueue_congr htsn fun t => errQueueOf_congr (by rw [hheap])).trans h.ports

theorem new_not_due (h : TxInv w₀ s) : ¬((∃ m, w₀.heap s.w.calls = some (.msghdr m)) ∨ s.w.calls ∈ s.due.map Prod.snd) := by
  intro hc
  obtain ⟨m, hm⟩ := (h.holds.messages s.w.calls).mpr hc
  rw [h.fresh _ (Nat.le_refl _)] at hm
  cases hm

theorem portQueue_of_reportQueue (h : TxInv w₀ s) {usPort : UInt16} {q : QueueHandle}
    (hq : reportQueue s.w usPort = some q) : portQueue w₀ usPort = some q := by
  rw [← h.ports]
  exact Resources.portQueue_of_reportQueue hq

/-- A report makes a message in the block with the next number. -/
theorem reported_messages (m : Msghdr) (bs : List UInt8) (a : Addr) (hfresh : w.heap w.calls = none)
    (hfresh' : w.heap (w.calls + 1) = none) :
    (∃ m', (reportedWorld w m bs).heap a = some (.msghdr m')) ↔ (∃ m', w.heap a = some (.msghdr m')) ∨ a = w.calls := by
  by_cases h1 : a = w.calls + 1
  · simp [reportedWorld, h1, hfresh']
  · by_cases h0 : a = w.calls
    · simp [reportedWorld, h0, hfresh]
    · simp [reportedWorld, h0, h1]

theorem reported_portQueue (m : Msghdr) (bs : List UInt8) (hfresh : w.heap w.calls = none)
    (hfresh' : w.heap (w.calls + 1) = none) : portQueue (reportedWorld w m bs) = portQueue w := by
  refine portQueue_congr rfl fun t => ?_
  by_cases h1 : t = w.calls + 1
  · simp [errQueueOf, reportedWorld, h1, hfresh']
  · by_cases h0 : t = w.calls
    · simp [errQueueOf, reportedWorld, h0, hfresh]
    · exact errQueueOf_congr (by simp [reportedWorld, h0, h1])

section Report

variable {pending : Option (BufId × UInt16)} {shared : List BufId} {due : List (UInt16 × Addr)} {usPort : UInt16}
  {m : Msghdr} {bs : List UInt8} {q : QueueHandle}

variable (h : TxInv w₀ ⟨w, pending, shared, due⟩)
include h

theorem report_none (heq : w' = { w with calls := w'.calls, freed := w'.freed }) (hle : w.calls ≤ w'.calls) :
    TxInv w₀ ⟨w', none, shared, due⟩ := by
  refine ⟨⟨fun q => ?_, fun a => ?_⟩, fun y hy => ?_, ?_⟩
  · rw [heq]
    exact h.holds.errQueues q
  · rw [heq]
    exact h.holds.messages a
  · rw [heq]
    exact h.fresh y (Nat.le_trans hle hy)
  · rw [heq]
    exact h.ports

/-- The report goes to the queue it is due for. -/
theorem report_queued (hq : reportQueue w usPort = some q) :
    TxInv w₀ ⟨(reportedWorld w m bs).setErrQueue q (w.errQueues q ++ [w.calls]), none, shared,
      due ++ [(usPort, w.calls)]⟩ := by
  have hfresh := h.fresh w.calls (Nat.le_refl _)
  have hfresh' := h.fresh (w.calls + 1) (Nat.le_succ _)
  refine ⟨⟨fun q' => ?_, fun a => ?_⟩, fun y hy => ?_, ?_⟩
  · have hold := h.holds.errQueues q'
    rw [dueFor_append, h.portQueue_of_reportQueue hq, ← List.append_assoc, ← hold]
    by_cases hqq : q' = q
    · simp [hqq]
    · have hqq' : ¬q = q' := fun he => hqq he.symm
      simp [hqq, hqq', reportedWorld]
  · rw [World.setErrQueue_heap, reported_messages m bs a hfresh hfresh', h.holds.messages a, List.map_append,
      List.map_singleton, List.mem_append, List.mem_singleton, or_assoc]
  · have hle : w.calls + 2 ≤ y := hy
    have hne0 : y ≠ w.calls := Nat.ne_of_gt (Nat.le_of_succ_le hle)
    have hne1 : y ≠ w.calls + 1 := Nat.ne_of_gt hle
    have hold := h.fresh y (Nat.le_trans (Nat.le_add_right _ 2) hle)
    simpa [reportedWorld, hne0, hne1] using hold
  · exact (reported_portQueue m bs hfresh hfresh').trans h.ports

theorem report_undue (hheap : w'.heap w.calls = some (.msghdr m)) : ¬TimestampsExact w₀ ⟨w', none, shared, due⟩ :=
  fun hc => h.new_not_due ((hc.messages w.calls).mp ⟨m, hheap⟩)

/-- A message that is due but does not get into its queue. -/
theorem report_missing (hq : reportQueue w usPort = some q) (hsame : w'.errQueues q = w.errQueues q) :
    ¬TimestampsExact w₀ ⟨w', none, shared, due ++ [(usPort, w.calls)]⟩ := by
  intro hc
  have hnew := hc.errQueues q
  have hold := h.holds.errQueues q
  rw [dueFor_append, h.portQueue_of_reportQueue hq, if_pos rfl, ← List.append_assoc, ← hold, hsame] at hnew
  simp at hnew

end Report

theorem report {shared : List BufId} {due : List (UInt16 × Addr)} {usPort : UInt16}
    (h : TxInv w₀ ⟨w, some (b, usPort), shared, due⟩) (hrun : (prvTimestampSent cfg b).run w = .ok () w')
    {due' : List (UInt16 × Addr)}
    (hdue : due' = if (reportQueue w usPort).isSome then due ++ [(usPort, w.calls)] else due) :
    (TxAction.FindsSender cfg ⟨w, some (b, usPort), shared, due⟩ .report → TxInv w₀ ⟨w', none, shared, due'⟩) ∧
      (¬TxAction.FindsSender cfg ⟨w, some (b, usPort), shared, due⟩ .report →
        ¬TimestampsExact w₀ ⟨w', none, shared, due'⟩) := by
  have hcond : TxAction.FindsSender cfg ⟨w, some (b, usPort), shared, due⟩ .report ↔
      reportQueue w (w.bufs b).usBoundPort = reportQueue w usPort ∧
        ∀ q, reportQueue w usPort = some q → (w.errQueues q).length < cfg.tsnconfigErrqueueLength := by
    constructor
    · exact fun hc => hc b usPort rfl
    · intro hc b' usPort' heq
      cases heq
      exact hc
  rw [hcond]
  have hout := prvTimestampSent_inv h.fresh hrun
  generalize reportQueue w (w.bufs b).usBoundPort = found at hout ⊢
  cases hq : reportQueue w usPort with
  | none =>
      rw [hq] at hdue
      rw [hdue]
      cases hout with
      | nothing heq hle =>
          refine ⟨fun _ => h.report_none heq hle, fun hn => absurd ⟨rfl, fun q hc => ?_⟩ hn⟩
          cases hc
      | queued hroom =>
          exact ⟨fun hc => absurd hc.1 (Option.some_ne_none _), fun _ => h.report_undue (reportedWorld_heap_calls _ _)⟩
      | dropped hfull =>
          exact ⟨fun hc => absurd hc.1 (Option.some_ne_none _), fun _ => h.report_undue (reportedWorld_heap_calls _ _)⟩
  | some q =>
      rw [hq] at hdue
      rw [hdue, if_pos Option.isSome_some]
      cases hout with
      | nothing heq hle =>
          refine ⟨fun hc => absurd hc.1.symm (Option.some_ne_none _), fun _ => h.report_missing hq ?_⟩
          rw [heq]
      | @queued q' m bs hroom =>
          by_cases hqq : q' = q
          · subst hqq
            refine ⟨fun _ => h.report_queued hq, fun hn => absurd ⟨rfl, fun q hc => ?_⟩ hn⟩
            cases hc
            exact hroom
          · refine ⟨fun hc => absurd (Option.some.inj hc.1) hqq, fun _ => h.report_missing hq ?_⟩
            exact Function.update_of_ne (Ne.symm hqq) _ _
      | dropped hfull =>
          refine ⟨fun hc => absurd (hc.2 q rfl) ?_, fun _ => h.report_missing hq rfl⟩
          rw [← Option.some.inj hc.1]
          exact hfull

theorem step {s s' : TxState} (h : TxInv w₀ s) {a : TxAction} (hstep : TxStep cfg a s s') :
    (a.FindsSender cfg s → TxInv w₀ s') ∧ (¬a.FindsSender cfg s → ¬TimestampsExact w₀ s') := by
  cases hstep with
  | transmit hb hrun =>
      exact ⟨fun _ => h.keep ((prvGiveToDriver_buffersOnly _ _ _).ok hrun) _ _, fun hn => absurd trivial hn⟩
  | report hrun => exact h.report hrun rfl
  | allocate hrun =>
      exact ⟨fun _ => h.keep ((pxGetNetworkBufferWithDescriptor_buffersOnly _).ok hrun) _ _,
        fun hn => absurd trivial hn⟩
  | @rewrite w _ _ _ b d m n _ =>
      have hb : BuffersOnly w (rewritten w b d m n) := ⟨rfl, Nat.le_refl _⟩
      exact ⟨fun _ => h.keep hb _ _, fun hn => absurd trivial hn⟩
  | queue b => exact ⟨fun _ => h.keep (refl_of BuffersOnly _) _ _, fun hn => absurd trivial hn⟩

theorem start (hfresh : ∀ y, w₀.calls ≤ y → w₀.heap y = none) (shared : List BufId) :
    TxInv w₀ ⟨w₀, none, shared, []⟩ where
  holds := ⟨by simp [dueFor], by simp⟩
  fresh := hfresh
  ports := rfl

theorem run (hfresh : ∀ y, w₀.calls ≤ y → w₀.heap y = none) {shared : List BufId} {s : TxState}
    (hrun : TxRun cfg ⟨w₀, none, shared, []⟩ s) : TxInv w₀ s := by
  induction hrun with
  | start => exact start hfresh shared
  | step _ hf hstep ih => exact (ih.step hstep).1 hf

end TxInv

end FreeRtosTsn.Resources
