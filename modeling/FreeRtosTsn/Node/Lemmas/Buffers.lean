import FreeRtosTsn.Node.Buffers
import FreeRtosTsn.Lib.Lines
import FreeRtosTsn.Node.Lemmas.Serving
import FreeRtosTsn.Packet.Lemmas.Send
import FreeRtosTsn.Resources.Lemmas.Reception

/-!
# Where the calls leave the buffers

A call of the node leaves every buffer in its place, or gives one that was nowhere to one place.
-/

namespace FreeRtosTsn.Node

open Lib Kernel Packet Scheduler Resources

variable {cfg : Config} {w w₁ w' : World} {b c : BufId}

/-! ## What a call does with the buffers -/

instance : Inhabited Place := ⟨.held⟩

/-- The places of the node itself. -/
def placed (w : World) (p : Place) : List BufId := p.buffers ⟨w, [], [], none⟩

/-- Beside the buffers: sockets that are new, and items that are new. -/
structure Aside (w w' : World) : Prop where
  calls_le : w.calls ≤ w'.calls
  sockets : ∀ k, w'.calls ≤ k → w.baseSockets k = none → w'.baseSockets k = none
  items : ∀ q, ∀ i ∈ w'.queues q, i ∈ w.queues q ∨ i.xReleaseAfterSend = true

theorem Aside.refl (w : World) : Aside w w := ⟨Nat.le_refl _, fun _ _ h => h, fun _ _ h => .inl h⟩

theorem Aside.trans (h : Aside w w₁) (h' : Aside w₁ w') : Aside w w' where
  calls_le := h.calls_le.trans h'.calls_le
  sockets k hk hnone := h'.sockets k hk (h.sockets k (h'.calls_le.trans hk) hnone)
  items q i hi := (h'.items q i hi).elim (h.items q i) .inr

structure Stays (w w' : World) : Prop extends Aside w w' where
  placed : ∀ p, placed w' p = placed w p

instance : IsPreorder World Stays where
  refl w := ⟨.refl w, fun _ => rfl⟩
  trans _ _ _ h h' := ⟨h.toAside.trans h'.toAside, fun p => (h'.placed p).trans (h.placed p)⟩

theorem Stays.eq (h : Stays w w') : Node.placed w' = Node.placed w := funext h.placed

/-- One buffer comes to one place, of a rank above `r`. -/
structure Gives (r : Nat) (b : BufId) (w w' : World) : Prop extends Aside w w' where
  joins : ∃ p : Place, r < p.rank ∧ Joins Place.IsLine b p (placed w) (placed w')

variable {r : Nat}

theorem Stays.gives (h : Stays w w₁) (h' : Gives r b w₁ w') : Gives r b w w' where
  toAside := h.toAside.trans h'.toAside
  joins := h.eq ▸ h'.joins

theorem Gives.stays (h : Gives r b w w₁) (h' : Stays w₁ w') : Gives r b w w' where
  toAside := h.toAside.trans h'.toAside
  joins := h'.eq.symm ▸ h.joins

theorem Gives.mono {r' : Nat} (hr : r ≤ r') (h : Gives r' b w w') : Gives r b w w' where
  toAside := h.toAside
  joins := by
    obtain ⟨p, hp, hjoins⟩ := h.joins
    exact ⟨p, Nat.lt_of_le_of_lt hr hp, hjoins⟩

/-- One buffer goes from one place, of rank `r`. -/
structure Takes (r : Nat) (b : BufId) (w w' : World) : Prop extends Aside w w' where
  leaves : ∃ p : Place, p.rank = r ∧ Leaves Place.IsLine b p (placed w) (placed w')

/-- Whenever the code ends, it has given the buffer away. -/
def GivesAfter {α : Type} (r : Nat) (b : BufId) (x : M α) : Prop :=
  ∀ {w : World} {a : α} {w' : World}, x.run w = .ok a w' → Gives r b w w'

section GivesAfter

variable {α β : Type} {x : M α} {f : α → M β}

theorem GivesAfter.after (hx : Keeps Stays x) (hf : ∀ a, GivesAfter r b (f a)) : GivesAfter r b (x >>= f) := by
  intro w a w' h
  obtain ⟨a₁, w₁, h₁, h₂⟩ := run_bind_inv h
  exact (hx.ok h₁).gives (hf a₁ h₂)

theorem GivesAfter.bind (hx : GivesAfter r b x) (hf : ∀ a, Keeps Stays (f a)) : GivesAfter r b (x >>= f) := by
  intro w a w' h
  obtain ⟨a₁, w₁, h₁, h₂⟩ := run_bind_inv h
  exact (hx h₁).stays ((hf a₁).ok h₂)

theorem GivesAfter.ite {y : M α} {p : Prop} [Decidable p] (hx : GivesAfter r b x) (hy : GivesAfter r b y) :
    GivesAfter r b (if p then x else y) := by
  split
  · exact hx
  · exact hy

theorem GivesAfter.mono {r' : Nat} (hr : r ≤ r') (hx : GivesAfter r' b x) : GivesAfter r b x :=
  fun h => (hx h).mono hr

end GivesAfter

/-! ## Places that are left alone -/

/-- The places are those that the buffers are in. -/
theorem placed_congr (hq : w'.queues = w.queues) (hr : w'.released = w.released) (hi : w'.ipTaskEvents = w.ipTaskEvents)
    (hu : w'.udpProcessed = w.udpProcessed) (hw : ∀ k, waiting w' k = waiting w k) (p : Place) :
    placed w' p = placed w p := by
  cases p with
  | queue q => simp [placed, Place.buffers, BufferState.items, hq]
  | stack p => cases p <;> simp [placed, Place.buffers, stackBuffers, hr, hi, hu, hw]
  | _ => rfl

theorem Stays.of_eq (h : w' = { w with
    calls := w'.calls, bufs := w'.bufs, mem := w'.mem, cap := w'.cap, overruns := w'.overruns,
    macFrames := w'.macFrames, heap := w'.heap, freed := w'.freed, errQueues := w'.errQueues,
    errQueueHandles := w'.errQueueHandles, bCallingFromController := w'.bCallingFromController,
    xBoundUDPSocketsList := w'.xBoundUDPSocketsList, xTSNBoundUDPSocketList := w'.xTSNBoundUDPSocketList })
    (hle : w.calls ≤ w'.calls) : Stays w w' := by
  rw [h]
  exact ⟨⟨hle, fun _ _ hk => hk, fun _ _ hi => .inl hi⟩, placed_congr rfl rfl rfl rfl fun _ => rfl⟩

theorem HeapStep.stays (w w' : World) (h : HeapStep w w') : Stays w w' :=
  .of_eq (by rw [h.eq]) h.calls_le

theorem Reads.stays (w w' : World) (h : Reads w w') : Stays w w' :=
  .of_eq (by rw [h.eq]) (by rw [h.eq])

theorem nextCall_stays : Keeps Stays nextCall := fun _ => .of_eq rfl (Nat.le_succ _)

theorem loadBuf_stays (b : BufId) : Keeps Stays (loadBuf b) := fun w => refl_of Stays w

theorem modifyBuf_stays (b : BufId) (f : NetworkBufferDescriptor → NetworkBufferDescriptor) :
    Keeps Stays (modifyBuf b f) := Keeps.modify fun _ => .of_eq rfl (Nat.le_refl _)

theorem ethOf_stays (p : Ptr) : Keeps Stays (ethOf p) := (ethOf_reads p).mono Reads.stays

theorem writeBytes_stays (p : Ptr) (off : Nat) (bs : List UInt8) : Keeps Stays (writeBytes p off bs) := by
  apply (ethOf_stays p).bind
  intro r
  apply ((checkAccess_reads _ _ _).mono Reads.stays).bind
  intro _
  exact Keeps.modify fun _ => .of_eq rfl (Nat.le_refl _)

theorem moveBytes_stays (p : Ptr) (dst src n : Nat) : Keeps Stays (moveBytes p dst src n) := by
  apply (ethOf_stays p).bind
  intro r
  apply ((checkAccess_reads _ _ _).mono Reads.stays).bind
  intro _
  apply ((checkAccess_reads _ _ _).mono Reads.stays).bind
  intro _
  exact Keeps.modify fun _ => .of_eq rfl (Nat.le_refl _)

theorem deref_stays {α : Type} (p : Option α) : Keeps Stays (Kernel.deref p) := (deref_heapStep p).mono HeapStep.stays

theorem vFreeAllNotNull_stays (a : Option Addr) : Keeps Stays (vFreeAllNotNull a) := by
  cases a with
  | none => exact Keeps.pure ()
  | some a => exact (vAncillaryMsgFreeAll_heapStep a).mono HeapStep.stays

theorem configAssert_stays (b : Bool) : Keeps Stays (configAssert b) := by
  cases b with
  | true => exact Keeps.pure ()
  | false => exact Keeps.throw _

theorem xSocketErrorQueueInsert_stays (cfg : Config) (t a : Addr) : Keeps Stays (xSocketErrorQueueInsert cfg t a) :=
  xSocketErrorQueueInsert_keeps HeapStep.stays (fun _ _ _ => .of_eq rfl (Nat.le_refl _)) cfg t a

theorem prvTimestampSent_stays (cfg : Config) (b : BufId) : Keeps Stays (prvTimestampSent cfg b) :=
  prvTimestampSent_keeps HeapStep.stays (fun _ _ _ => .of_eq rfl (Nat.le_refl _)) cfg b

/-! ## Places that a buffer is given to -/

/-- A place of the stack gets it. -/
theorem Gives.stack {p : BufPlace} (ha : Aside w w') (hr : r < (Place.stack p).rank) (hq : w'.queues = w.queues)
    (h : ∀ p', stackBuffers w' p' = stackBuffers w p' ++ if p' = p then [b] else []) : Gives r b w w' := by
  refine ⟨ha, .stack p, hr, .of_append (by simpa [placed, Place.buffers] using h p) fun p' hp' => ?_⟩
  cases p' with
  | queue q => simp [placed, Place.buffers, BufferState.items, hq]
  | stack p' =>
      have hne : p' ≠ p := fun h => hp' (h ▸ rfl)
      simpa [placed, Place.buffers, hne] using h p'
  | _ => rfl

theorem Aside.of_eq (hcalls : w'.calls = w.calls) (hsockets : w'.baseSockets = w.baseSockets)
    (hq : w'.queues = w.queues) : Aside w w' where
  calls_le := hcalls ▸ Nat.le_refl _
  sockets _ _ h := hsockets ▸ h
  items _ _ hi := .inl (hq ▸ hi)

theorem Gives.release (w : World) (b : BufId) : Gives 2 b w (w.release b) :=
  .stack (p := .released) (.of_eq rfl rfl rfl) (Nat.lt_succ_self 2) rfl fun p => by
    cases p <;> simp [stackBuffers, waiting]

theorem Gives.toIPTask (w : World) (b : BufId) : Gives 2 b w (w.toIPTask b) :=
  .stack (p := .ipTask) (.of_eq rfl rfl rfl) (Nat.lt_succ_self 2) rfl fun p => by
    cases p <;> simp [stackBuffers, waiting]

theorem Gives.toUDP (w : World) (b : BufId) : Gives 2 b w (w.toUDP b) :=
  .stack (p := .udp) (.of_eq rfl rfl rfl) (Nat.lt_succ_self 2) rfl fun p => by
    cases p <;> simp [stackBuffers, waiting]

theorem vReleaseNetworkBufferAndDescriptor_gives (b : BufId) :
    GivesAfter 2 b (vReleaseNetworkBufferAndDescriptor b) := by
  intro w a w' h
  cases h
  exact .release w b

theorem prvToIPTask_gives (b : BufId) : GivesAfter 2 b (prvToIPTask b) := by
  intro w a w' h
  rw [run_prvToIPTask] at h
  cases h
  have htick : Stays w w.tick := .of_eq rfl (Nat.le_succ _)
  split
  · exact htick.gives (.toIPTask w.tick b)
  · exact htick.gives (.release w.tick b)

/-- The packet is appended to the list of one socket. -/
theorem Gives.waits {k : SockId} {x : BaseSocket} (hx : w.baseSockets k = some x) (b : BufId) :
    Gives 1 b w (w.setBaseSocket k (some { x with xWaitingPacketsList := x.xWaitingPacketsList ++ [b] })) := by
  refine .stack (p := .waiting k) ⟨Nat.le_refl _, fun j hj hnone => ?_, fun _ _ h => .inl h⟩ (Nat.lt_succ_self 1) rfl
    fun p => ?_
  · have hjk : j ≠ k := by
      rintro rfl
      rw [hx] at hnone
      cases hnone
    simpa [hjk] using hnone
  · cases p with
    | waiting j =>
        by_cases hj : j = k
        · subst hj
          simp [stackBuffers, waiting, hx]
        · simp [stackBuffers, waiting, hj]
    | _ => simp [stackBuffers]

theorem prvWaitForUser_gives (b : BufId) (a : Addr) (k : SockId) : GivesAfter 1 b (prvWaitForUser b a k) := by
  refine GivesAfter.after (modifyBuf_stays b _) fun _ => ?_
  intro w r w' h
  obtain ⟨x, w₁, hload, h₁⟩ := run_bind_inv h
  obtain ⟨rfl, hx⟩ := loadBaseSocket_inv hload
  cases h₁
  exact .waits hx b

/-! ## Delivering -/

variable {xItem : NetworkQueueItem}

theorem prvReceiveUDPPacketTSN_gives (hb : xItem.pxBuf = some b) (t : Addr) (k : SockId) :
    GivesAfter 1 b (prvReceiveUDPPacketTSN cfg xItem t k) := by
  rw [prvReceiveUDPPacketTSN, hb]
  refine GivesAfter.after (configAssert_stays _) fun _ => GivesAfter.after (deref_stays _) fun a => ?_
  refine GivesAfter.after ((loadMsghdr_heapStep a).mono HeapStep.stays) fun m => GivesAfter.ite ?_ ?_
  · refine GivesAfter.bind (GivesAfter.mono (Nat.le_succ 1) (vReleaseNetworkBufferAndDescriptor_gives b)) fun _ => ?_
    exact (xSocketErrorQueueInsert_stays cfg t a).bind fun _ => Keeps.pure ()
  · refine GivesAfter.after ((prvIovBase_heapStep a).mono HeapStep.stays) fun p => ?_
    simp only [Kernel.deref, pure_bind]
    refine GivesAfter.after (loadBuf_stays b) fun d => ?_
    exact GivesAfter.after (configAssert_stays _) fun _ => prvWaitForUser_gives b a k

theorem prvDeliverToPlainSocket_gives (xItem : NetworkQueueItem) (b : BufId) (ucProto : UInt8) (xUsingIPTask : Bool) :
    GivesAfter 2 b (prvDeliverToPlainSocket xItem b ucProto xUsingIPTask) := by
  apply GivesAfter.after (vFreeAllNotNull_stays _)
  intro _
  apply GivesAfter.ite (prvToIPTask_gives b)
  intro w a w' h
  have htick : Stays w w.tick := .of_eq rfl (Nat.le_succ _)
  cases hok : w.env.xProcessReceivedUDPPacket w.calls <;> simp [xProcessReceivedUDPPacket, nextCall, hok] at h
  · cases h
    exact htick.gives (.release w.tick b)
  · cases h
    exact htick.gives (.toUDP w.tick b)

theorem prvDispatchFrame_gives (hb : xItem.pxBuf = some b) (ucProto : UInt8) (xUsingIPTask : Bool) :
    GivesAfter 1 b (prvDispatchFrame cfg xItem b ucProto xUsingIPTask) := by
  apply GivesAfter.after (loadBuf_stays b)
  intro d
  apply GivesAfter.after ((vSocketFromPort_heapStep _).mono HeapStep.stays)
  rintro ⟨k, t⟩
  cases t with
  | some t =>
      apply GivesAfter.after (deref_stays k)
      intro k
      exact prvReceiveUDPPacketTSN_gives hb t k
  | none =>
      cases k with
      | some k => exact GivesAfter.mono (Nat.le_succ 1) (prvDeliverToPlainSocket_gives xItem b ucProto xUsingIPTask)
      | none => exact GivesAfter.mono (Nat.le_succ 1) (prvToIPTask_gives b)

theorem prvInspectFrame_stays (b : BufId) : Keeps Stays (prvInspectFrame b) := by
  apply (loadBuf_stays b).bind
  intro d
  apply ((load16_reads _ _).mono Reads.stays).bind
  intro usFrameType
  apply Keeps.ite
  · refine Keeps.ite (Keeps.pure _) ?_
    apply ((load32_reads _ _).mono Reads.stays).bind
    intro ulSource
    apply (modifyBuf_stays b _).bind
    intro _
    exact ((load8_reads _ _).mono Reads.stays).bind fun _ => Keeps.pure _
  · exact Keeps.pure _

/-- A frame that is not ignored is given to somebody. -/
theorem prvDeliverFrame_gives (hb : xItem.pxBuf = some b) (hd : ignores (w.bufs b) = false) {xUsingIPTask : Bool}
    (h : (prvDeliverFrame cfg xItem xUsingIPTask).run w = .ok () w') : Gives 1 b w w' := by
  rw [prvDeliverFrame, hb] at h
  simp only [run_bind_ok (run_loadBuf w b)] at h
  rw [ignores] at hd
  rw [hd] at h
  obtain ⟨r, w₁, h₁, h₂⟩ := run_bind_inv h
  refine ((prvInspectFrame_stays b).ok h₁).gives ?_
  cases r with
  | none => exact (vReleaseNetworkBufferAndDescriptor_gives b h₂).mono (Nat.le_succ 1)
  | some ucProto => exact prvDispatchFrame_gives hb ucProto xUsingIPTask h₂

theorem prvDeliverFrame_ignores {xUsingIPTask : Bool} (hd : ∀ b, xItem.pxBuf = some b → ignores (w.bufs b) = true)
    (h : (prvDeliverFrame cfg xItem xUsingIPTask).run w = .ok () w') : w' = w := by
  rw [prvDeliverFrame] at h
  cases hb : xItem.pxBuf with
  | none =>
      rw [hb] at h
      cases h
      rfl
  | some b =>
      rw [hb] at h
      simp only [run_bind_ok (run_loadBuf w b)] at h
      have hig := hd b hb
      rw [ignores] at hig
      rw [hig] at h
      cases h
      rfl

/-! ## Sending -/

theorem pxResize_buffers {n : Nat} {r : Option BufId}
    (h : (pxResizeNetworkBufferWithDescriptor b n).run w = .ok r w') : Stays w w' ∧ ∀ c, r = some c → c = b := by
  cases hr : w.env.pxResizeNetworkBufferWithDescriptor w.calls <;>
    simp [pxResizeNetworkBufferWithDescriptor, nextCall, hr] at h
  · obtain ⟨rfl, rfl⟩ := h
    exact ⟨.of_eq rfl (Nat.le_succ _), by simp⟩
  · obtain ⟨rfl, rfl⟩ := h
    exact ⟨.of_eq rfl (Nat.le_succ _), by simp⟩

theorem prvInsertVLANTag_buffers {usTCI usTPID : UInt16} {r : Option BufId}
    (h : (prvInsertVLANTag b usTCI usTPID).run w = .ok r w') :
    (r = some b ∧ Stays w w') ∨ (r = none ∧ Gives 2 b w w') := by
  rw [prvInsertVLANTag] at h
  obtain ⟨d, w₁, h₁, h⟩ := run_bind_inv h
  obtain ⟨r', w₂, h₂, h⟩ := run_bind_inv h
  obtain ⟨hstays, hsame⟩ := pxResize_buffers h₂
  have hw₂ : Stays w w₂ := trans_of Stays ((loadBuf_stays b).ok h₁) hstays
  cases r' with
  | none =>
      obtain ⟨u, w₃, h₃, h⟩ := run_bind_inv h
      cases h
      exact .inr ⟨rfl, hw₂.gives (vReleaseNetworkBufferAndDescriptor_gives b h₃)⟩
  | some c =>
      cases hsame c rfl
      obtain ⟨u, w₃, h₃, h⟩ := run_bind_inv h
      obtain ⟨d', w₄, h₄, h⟩ := run_bind_inv h
      obtain ⟨d'', w₅, h₅, h⟩ := run_bind_inv h
      obtain ⟨u₁, w₆, h₆, h⟩ := run_bind_inv h
      obtain ⟨u₂, w₇, h₇, h⟩ := run_bind_inv h
      obtain ⟨u₃, w₈, h₈, h⟩ := run_bind_inv h
      cases h
      have hw₃ := trans_of Stays hw₂ ((modifyBuf_stays b _).ok h₃)
      have hw₅ := trans_of Stays hw₃ (trans_of Stays ((loadBuf_stays b).ok h₄) ((loadBuf_stays b).ok h₅))
      have hw₆ := trans_of Stays hw₅ ((moveBytes_stays _ _ _ _).ok h₆)
      have hw₇ := trans_of Stays hw₆ ((writeBytes_stays _ _ _).ok h₇)
      exact .inl ⟨rfl, trans_of Stays hw₇ ((writeBytes_stays _ _ _).ok h₈)⟩

/-- False is returned for a buffer that was released. -/
theorem prvInsertInterfaceTags_buffers {c : NetworkInterfaceConfig} {r : Bool}
    (h : (prvInsertInterfaceTags cfg c b).run w = .ok r w') : if r then Stays w w' else Gives 2 b w w' := by
  rw [prvInsertInterfaceTags] at h
  split at h
  · split at h
    · obtain ⟨r₁, w₁, h₁, h₂⟩ := run_bind_inv h
      rcases prvInsertVLANTag_buffers h₁ with ⟨rfl, hstays⟩ | ⟨rfl, hgives⟩
      · dsimp only at h₂
        split at h₂
        · obtain ⟨r₂, w₂, h₃, h₄⟩ := run_bind_inv h₂
          rcases prvInsertVLANTag_buffers h₃ with ⟨rfl, hstays'⟩ | ⟨rfl, hgives⟩
          · cases h₄
            exact trans_of Stays hstays hstays'
          · cases h₄
            exact hstays.gives hgives
        · cases h₂
          exact hstays
      · cases h₂
        exact hgives
    · cases h
      exact refl_of Stays w
  · cases h
    exact refl_of Stays w

theorem readBytes_stays (p : Ptr) (n : Nat) : Keeps Stays (readBytes p n) := (readBytes_reads p n).mono Reads.stays

/-- The driver releases the buffer when it is asked to, whether it takes the frame or not. -/
theorem xMacNetworkInterfaceOutput_gives (b : BufId) : GivesAfter 2 b (xMacNetworkInterfaceOutput b true) := by
  apply GivesAfter.after nextCall_stays
  intro n
  apply GivesAfter.after (loadBuf_stays b)
  intro d
  apply GivesAfter.after (readBytes_stays _ _)
  intro bs w r w' h
  simp only [run_bind_ok (EStateM.run_get w)] at h
  split at h
  · obtain ⟨u, w₁, h₁, h⟩ := run_bind_inv h
    obtain ⟨u', w₂, h₂, h⟩ := run_bind_inv h
    cases h
    cases h₁
    have hemit : Stays w (w.emit bs) := .of_eq rfl (Nat.le_refl _)
    exact hemit.gives (vReleaseNetworkBufferAndDescriptor_gives b h₂)
  · obtain ⟨u', w₂, h₂, h⟩ := run_bind_inv h
    cases h
    exact vReleaseNetworkBufferAndDescriptor_gives b h₂

theorem prvOutputFromController_gives (cfg : Config) (i : IfaceId) (b : BufId) :
    GivesAfter 2 b (prvOutputFromController cfg i b true) := by
  intro w r w' h
  rw [prvOutputFromController, run_bind_ok (EStateM.run_get w)] at h
  obtain ⟨ok, w₁, h₁, h⟩ := run_bind_inv h
  have htags := prvInsertInterfaceTags_buffers h₁
  cases ok with
  | false =>
      cases h
      exact htags
  | true =>
      refine Stays.gives htags ?_
      obtain ⟨bSent, w₂, h₂, h⟩ := run_bind_inv h
      have hgives := xMacNetworkInterfaceOutput_gives b h₂
      cases bSent with
      | false =>
          cases h
          exact hgives
      | true =>
          obtain ⟨u, w₃, h₃, h⟩ := run_bind_inv h
          cases h
          exact hgives.stays ((prvTimestampSent_stays cfg b).ok h₃)

end FreeRtosTsn.Node
