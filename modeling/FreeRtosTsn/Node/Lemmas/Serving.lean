import FreeRtosTsn.Node.Serving
import FreeRtosTsn.Packet.Lemmas.Arrive
import FreeRtosTsn.Packet.Lemmas.Deliver
import FreeRtosTsn.Resources.Lemmas.Timestamps

/-!
# What serving leaves alone

Serving works on network buffers, messages, waiting lists and error queues.
-/

namespace FreeRtosTsn.Node

open Lib Kernel Packet Scheduler Resources

instance : IsPreorder World ServeKeeps where
  refl _ := ⟨⟨rfl, rfl, rfl, rfl, rfl⟩, rfl, rfl, rfl, fun _ => List.prefix_rfl⟩
  trans _ _ _ h h' := ⟨⟨h'.queues.trans h.queues, h'.ulNotifiedValue.trans h.ulNotifiedValue,
    h'.uxNextActivation.trans h.uxNextActivation, h'.uxNextWakeup.trans h.uxNextWakeup,
    h'.xTickCount.trans h.xTickCount⟩, h'.pxNetworkQueueList.trans h.pxNetworkQueueList,
    h'.uxPriority.trans h.uxPriority, h'.bCallingFromController.trans h.bCallingFromController,
    fun k => (h.waiting k).trans (h'.waiting k)⟩

/-- A change of something else. -/
theorem ServeKeeps.of_eq {w w' : World} (h : w' = { w with
    env := w'.env, calls := w'.calls, bufs := w'.bufs, mem := w'.mem, cap := w'.cap, released := w'.released,
    overruns := w'.overruns, heap := w'.heap, freed := w'.freed, errQueues := w'.errQueues,
    ipTaskEvents := w'.ipTaskEvents, udpProcessed := w'.udpProcessed, macFrames := w'.macFrames }) :
    ServeKeeps w w' := by
  rw [h]
  exact ⟨⟨rfl, rfl, rfl, rfl, rfl⟩, rfl, rfl, rfl, fun _ => List.prefix_rfl⟩

theorem HeapStep.serveKeeps (w w' : World) (h : HeapStep w w') : ServeKeeps w w' := by
  rw [h.eq]
  exact .of_eq rfl

theorem BuffersOnly.serveKeeps (w w' : World) (h : BuffersOnly w w') : ServeKeeps w w' := by
  rw [h.eq]
  exact .of_eq rfl

theorem Reads.serveKeeps (w w' : World) (h : Reads w w') : ServeKeeps w w' :=
  BuffersOnly.serveKeeps w w' (Reads.buffersOnly w w' h)

theorem nextCall_serveKeeps : Keeps ServeKeeps nextCall := nextCall_buffersOnly.mono BuffersOnly.serveKeeps

theorem vReleaseNetworkBufferAndDescriptor_serveKeeps (b : BufId) :
    Keeps ServeKeeps (vReleaseNetworkBufferAndDescriptor b) :=
  (vReleaseNetworkBufferAndDescriptor_buffersOnly b).mono BuffersOnly.serveKeeps

theorem vReleaseNotNull_serveKeeps (b : Option BufId) : Keeps ServeKeeps (vReleaseNotNull b) := by
  cases b with
  | none => exact Keeps.pure ()
  | some b => exact vReleaseNetworkBufferAndDescriptor_serveKeeps b

theorem vFreeAllNotNull_serveKeeps (a : Option Addr) : Keeps ServeKeeps (vFreeAllNotNull a) := by
  cases a with
  | none => exact Keeps.pure ()
  | some a => exact (vAncillaryMsgFreeAll_heapStep a).mono HeapStep.serveKeeps

theorem configAssert_serveKeeps (b : Bool) : Keeps ServeKeeps (configAssert b) := by
  cases b with
  | true => exact Keeps.pure ()
  | false => exact Keeps.throw _

theorem deref_serveKeeps {α : Type} (p : Option α) : Keeps ServeKeeps (Kernel.deref p) :=
  (deref_heapStep p).mono HeapStep.serveKeeps

/-! ## Delivering -/

/-- The packet is appended to the list of one socket. -/
theorem prvWaitForUser_serveKeeps (b : BufId) (a : Addr) (k : SockId) : Keeps ServeKeeps (prvWaitForUser b a k) := by
  apply ((modifyBuf_buffersOnly b _).mono BuffersOnly.serveKeeps).bind
  intro _ w
  cases hx : w.baseSockets k with
  | none =>
      have hrun : (loadBaseSocket k).run w = .error .heap w := by simp [loadBaseSocket, hx]
      rw [run_bind_error hrun]
      exact refl_of ServeKeeps w
  | some x =>
      rw [run_bind_ok (run_loadBaseSocket hx)]
      refine ⟨⟨rfl, rfl, rfl, rfl, rfl⟩, rfl, rfl, rfl, fun k' => ?_⟩
      by_cases hk : k' = k
      · subst hk
        simp [storeBaseSocket, waiting, hx]
      · simp [storeBaseSocket, waiting, Function.update_of_ne hk]

theorem xSocketErrorQueueInsert_serveKeeps (cfg : Config) (t a : Addr) :
    Keeps ServeKeeps (xSocketErrorQueueInsert cfg t a) :=
  xSocketErrorQueueInsert_keeps HeapStep.serveKeeps (fun _ _ _ => .of_eq rfl) cfg t a

theorem prvReceiveUDPPacketTSN_serveKeeps (cfg : Config) (xItem : NetworkQueueItem) (t : Addr) (k : SockId) :
    Keeps ServeKeeps (prvReceiveUDPPacketTSN cfg xItem t k) := by
  apply (configAssert_serveKeeps _).bind
  intro _
  apply (deref_serveKeeps _).bind
  intro a
  apply ((loadMsghdr_heapStep a).mono HeapStep.serveKeeps).bind
  intro m
  apply Keeps.ite
  · apply (vReleaseNotNull_serveKeeps _).bind
    intro _
    exact (xSocketErrorQueueInsert_serveKeeps cfg t a).bind fun _ => Keeps.pure ()
  · apply ((prvIovBase_heapStep a).mono HeapStep.serveKeeps).bind
    intro p
    apply (deref_serveKeeps _).bind
    intro b
    apply Keeps.get
    intro w
    exact ((configAssert_serveKeeps _).bind fun _ => prvWaitForUser_serveKeeps b a k) w

theorem prvToIPTask_serveKeeps (b : BufId) : Keeps ServeKeeps (prvToIPTask b) := by
  have hsend : Keeps ServeKeeps (xSendEventStructToIPTask b) := by
    apply nextCall_serveKeeps.bind
    intro n
    apply Keeps.get
    intro w
    split
    · exact .of_eq rfl
    · exact refl_of ServeKeeps w
  apply hsend.bind
  intro ok
  exact Keeps.ite (vReleaseNetworkBufferAndDescriptor_serveKeeps b) (Keeps.pure ())

theorem prvDeliverToPlainSocket_serveKeeps (xItem : NetworkQueueItem) (b : BufId) (ucProto : UInt8)
    (xUsingIPTask : Bool) : Keeps ServeKeeps (prvDeliverToPlainSocket xItem b ucProto xUsingIPTask) := by
  have hudp : Keeps ServeKeeps (xProcessReceivedUDPPacket b) := by
    apply nextCall_serveKeeps.bind
    intro n
    apply Keeps.get
    intro w
    split
    · exact .of_eq rfl
    · exact refl_of ServeKeeps w
  apply (vFreeAllNotNull_serveKeeps _).bind
  intro _
  apply Keeps.ite (prvToIPTask_serveKeeps b)
  apply hudp.bind
  intro ok
  exact Keeps.ite (vReleaseNetworkBufferAndDescriptor_serveKeeps b) (Keeps.pure ())

theorem prvDispatchFrame_serveKeeps (cfg : Config) (xItem : NetworkQueueItem) (b : BufId) (ucProto : UInt8)
    (xUsingIPTask : Bool) : Keeps ServeKeeps (prvDispatchFrame cfg xItem b ucProto xUsingIPTask) := by
  apply Keeps.get
  intro w
  refine ((vSocketFromPort_heapStep _).mono HeapStep.serveKeeps).bind (fun r => ?_) w
  obtain ⟨k, t⟩ := r
  cases t with
  | some t =>
      apply (deref_serveKeeps k).bind
      intro k
      exact prvReceiveUDPPacketTSN_serveKeeps cfg xItem t k
  | none =>
      cases k with
      | some k => exact prvDeliverToPlainSocket_serveKeeps xItem b ucProto xUsingIPTask
      | none => exact prvToIPTask_serveKeeps b

theorem prvInspectFrame_serveKeeps (b : BufId) : Keeps ServeKeeps (prvInspectFrame b) := by
  apply ((loadBuf_buffersOnly b).mono BuffersOnly.serveKeeps).bind
  intro d
  apply ((load16_reads _ _).mono Reads.serveKeeps).bind
  intro usFrameType
  apply Keeps.ite
  · refine Keeps.ite (Keeps.pure _) ?_
    apply ((load32_reads _ _).mono Reads.serveKeeps).bind
    intro ulSource
    apply ((modifyBuf_buffersOnly b _).mono BuffersOnly.serveKeeps).bind
    intro _
    exact ((load8_reads _ _).mono Reads.serveKeeps).bind fun _ => Keeps.pure _
  · exact Keeps.pure _

theorem prvDeliverFrame_serveKeeps (cfg : Config) (xItem : NetworkQueueItem) (xUsingIPTask : Bool) :
    Keeps ServeKeeps (prvDeliverFrame cfg xItem xUsingIPTask) := by
  rw [prvDeliverFrame]
  cases xItem.pxBuf with
  | none => exact Keeps.pure ()
  | some b =>
      apply ((loadBuf_buffersOnly b).mono BuffersOnly.serveKeeps).bind
      intro d
      refine Keeps.ite (Keeps.pure ()) ?_
      apply (prvInspectFrame_serveKeeps b).bind
      intro r
      cases r with
      | none => exact vReleaseNetworkBufferAndDescriptor_serveKeeps b
      | some ucProto => exact prvDispatchFrame_serveKeeps cfg xItem b ucProto xUsingIPTask

/-! ## Sending -/

theorem prvOutputFromController_serveKeeps (cfg : Config) (i : IfaceId) (b : BufId) (bReleaseAfterSend : Bool) :
    Keeps ServeKeeps (prvOutputFromController cfg i b bReleaseAfterSend) := by
  rw [prvOutputFromController_eq]
  apply ((prvGiveToDriver_buffersOnly i b _).mono BuffersOnly.serveKeeps).bind
  intro bSent
  cases bSent with
  | false => exact Keeps.pure _
  | true =>
      exact (prvTimestampSent_keeps HeapStep.serveKeeps (fun _ _ _ => .of_eq rfl) cfg b).bind fun _ => Keeps.pure _

/-- The controller passes a frame to the driver, and does not queue it again. -/
theorem xTsnNetworkInterfaceOutput_serveKeeps (cfg : Config) (i : IfaceId) (b : BufId) (bReleaseAfterSend : Bool)
    {w : World} (hc : w.bCallingFromController = true) :
    ServeKeeps w (lastState ((xTsnNetworkInterfaceOutput cfg i b bReleaseAfterSend).run w)) := by
  rw [xTsnNetworkInterfaceOutput, run_bind_ok (EStateM.run_get w), if_pos hc]
  exact prvOutputFromController_serveKeeps cfg i b bReleaseAfterSend w

/-- The message of a frame is freed before the frame is sent. -/
theorem prvFreeAndOutput_serveKeeps (cfg : Config) (a : Option Addr) (i : IfaceId) (b : BufId)
    (bReleaseAfterSend : Bool) {w : World} (hc : w.bCallingFromController = true) :
    ServeKeeps w (lastState ((do
      vFreeAllNotNull a
      let _ ← xTsnNetworkInterfaceOutput cfg i b bReleaseAfterSend : M Unit).run w)) := by
  have hfree := vFreeAllNotNull_serveKeeps a w
  cases hrun : (vFreeAllNotNull a).run w with
  | error e w₁ =>
      rw [run_bind_error hrun]
      rwa [hrun] at hfree
  | ok r w₁ =>
      rw [hrun] at hfree
      have hc₁ : w₁.bCallingFromController = true := hfree.bCallingFromController.trans hc
      have hsend := xTsnNetworkInterfaceOutput_serveKeeps cfg i b bReleaseAfterSend hc₁
      rw [run_bind_ok hrun, EStateM.run_bind]
      refine trans_of ServeKeeps hfree ?_
      cases hout : (xTsnNetworkInterfaceOutput cfg i b bReleaseAfterSend).run w₁ with
      | ok r w₂ => rwa [hout] at hsend
      | error e w₂ => rwa [hout] at hsend

theorem prvServeItem_serveKeeps (cfg : Config) (q : NetworkQueue) (xItem : NetworkQueueItem) {w : World}
    (hc : w.bCallingFromController = true) :
    ServeKeeps w (lastState ((prvServeItem cfg q xItem).run w)) := by
  rw [prvServeItem]
  split
  · cases xItem.pxBuf with
    | none => exact refl_of ServeKeeps w
    | some b =>
        cases he : (w.bufs b).pxEndPoint with
        | none =>
            simp only [run_bind_ok (run_deref_some w b), run_bind_ok (run_loadBuf w b), he]
            exact refl_of ServeKeeps w
        | some e =>
            simp only [run_bind_ok (run_deref_some w b), run_bind_ok (run_loadBuf w b), he,
              run_bind_ok (run_deref_some w e), run_bind_ok (EStateM.run_get w)]
            exact prvFreeAndOutput_serveKeeps cfg _ _ b _ hc
  · exact prvDeliverFrame_serveKeeps cfg xItem _ w

theorem Served.keeps {cfg : Config} {q : NetworkQueue} {xItem : NetworkQueueItem} {w w' : World}
    (h : Served cfg q xItem w w') : ServeKeeps w w' := by
  obtain ⟨w₁, hrun, rfl⟩ := h
  have hkeeps : ServeKeeps (asController w) w₁ := by
    simpa [hrun] using prvServeItem_serveKeeps cfg q xItem (w := asController w) rfl
  exact ⟨⟨hkeeps.queues, hkeeps.ulNotifiedValue, hkeeps.uxNextActivation, hkeeps.uxNextWakeup, hkeeps.xTickCount⟩,
    hkeeps.pxNetworkQueueList, hkeeps.uxPriority, rfl, hkeeps.waiting⟩

theorem NodeActs.acts {cfg : Config} {o : Call} {w w' : World} {r : Call.Res o} (h : NodeActs cfg o w r w') :
    Acts cfg o w r w' := by
  cases o with
  | serve q xItem => exact (Served.keeps h).toSameScheduler
  | _ => exact h

end FreeRtosTsn.Node
