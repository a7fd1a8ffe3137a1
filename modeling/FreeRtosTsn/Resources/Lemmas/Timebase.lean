import FreeRtosTsn.Packet.Lemmas.Deliver
import FreeRtosTsn.Packet.Lemmas.Output
import FreeRtosTsn.Packet.Lemmas.Receive
import FreeRtosTsn.Resources.Lemmas.Timestamps
import FreeRtosTsn.Resources.Timebase

/-!
# The timebase of the user

Only `xTimebaseHandleSet` changes the timebase. A received packet gets to the callback behind the guard, a sent one in
front of it.
-/

namespace FreeRtosTsn.Resources

open Lib Kernel Packet Scheduler

variable {cfg : Config} {w w' : World} {b : BufId}

/-! ## Code that leaves the timebase alone -/

theorem HeapStep.timebaseOf (w w' : World) (h : HeapStep w w') : Same timebaseOf w w' := by
  rw [Same, h.eq]
  rfl

theorem BuffersOnly.timebaseOf (w w' : World) (h : BuffersOnly w w') : Same timebaseOf w w' := by
  rw [Same, h.eq]
  rfl

theorem timebaseOk_congr (h : Same timebaseOf w w') (hw : TimebaseOk w) : TimebaseOk w' := by
  obtain ⟨hstate, hset⟩ := Prod.mk.inj h
  rw [TimebaseOk, hstate, hset]
  exact hw

theorem ucGetNumberOfTags_reads (b : BufId) : Keeps Reads (ucGetNumberOfTags b) := by
  refine Keeps.bind (x := loadBuf b) (fun w => refl_of Reads w) fun d => ?_
  apply Keeps.ite
  · exact Keeps.pure _
  · apply (load16_reads _ _).bind
    intro usEthType
    exact Keeps.ite (Keeps.pure _) (Keeps.ite (Keeps.pure _) (Keeps.pure _))

theorem prvParseNetwork_reads (p : Ptr) (usFrameType : UInt16) : Keeps Reads (prvParseNetwork p usFrameType) := by
  apply Keeps.ite
  · exact (load8_reads _ _).bind fun _ => (load32_reads _ _).bind fun _ => Keeps.pure _
  · apply Keeps.ite
    · exact (load8_reads _ _).bind fun _ => (readBytes_reads _ _).bind fun _ => Keeps.pure _
    · exact Keeps.pure _

theorem prvParsePorts_reads (p : Ptr) (ucProtocol : UInt8) (uxPrefix : Nat) :
    Keeps Reads (prvParsePorts p ucProtocol uxPrefix) := by
  apply Keeps.ite
  · exact (load16_reads _ _).bind fun _ => (load16_reads _ _).bind fun _ => Keeps.pure _
  · exact Keeps.pure _

theorem load16_buffersOnly (p : Ptr) (off : Nat) : Keeps BuffersOnly (load16 p off) :=
  (load16_reads p off).mono Reads.buffersOnly

theorem prvRemoveTags_buffersOnly (b : BufId) (uxNumTags : Nat) : Keeps BuffersOnly (prvRemoveTags b uxNumTags) := by
  apply (loadBuf_buffersOnly b).bind
  intro d
  apply (moveBytes_buffersOnly _ _ _ _).bind
  intro _
  exact modifyBuf_buffersOnly b _

theorem prvStripVLANTag_buffersOnly (b : BufId) : Keeps BuffersOnly (prvStripVLANTag b) := by
  apply ((ucGetNumberOfTags_reads b).mono Reads.buffersOnly).bind
  intro uxNumTags
  apply (loadBuf_buffersOnly b).bind
  intro d
  split
  · exact Keeps.pure _
  · exact (load16_buffersOnly _ _).bind fun _ => (prvRemoveTags_buffersOnly b 1).bind fun _ => Keeps.pure _
  · exact (load16_buffersOnly _ _).bind fun _ => (load16_buffersOnly _ _).bind fun _ =>
      (prvRemoveTags_buffersOnly b _).bind fun _ => Keeps.pure _

theorem prvParseFrame_buffersOnly (b : BufId) : Keeps BuffersOnly (prvParseFrame b) := by
  apply (loadBuf_buffersOnly b).bind
  intro d
  apply (prvStripVLANTag_buffersOnly b).bind
  intro _
  apply (load16_buffersOnly _ _).bind
  intro usFrameType
  apply ((prvParseNetwork_reads _ _).mono Reads.buffersOnly).bind
  rintro ⟨ucProtocol, xDestinationAddr, uxPrefix⟩
  apply ((prvParsePorts_reads _ _ _).mono Reads.buffersOnly).bind
  rintro ⟨usDestinationPort, usSourcePort⟩
  exact (modifyBuf_buffersOnly b _).bind fun _ => Keeps.pure _

theorem insert_timebaseOf (xItem : NetworkQueueItem) (t : Nat) :
    Keeps (Same timebaseOf) (exec cfg (xNetworkQueueInsertPacketByFilter cfg xItem t)) := by
  intro w
  rw [exec_insert]
  cases prvChooseQueue xItem (bufferOf w xItem.pxBuf) none w.pxNetworkQueueList with
  | none => rfl
  | some q =>
      obtain ⟨w', hrun, hpush⟩ := exec_xNetworkQueuePush cfg w xItem q t
      dsimp only
      rw [hrun]
      split at hpush
      · rw [Same, lastState_ok, hpush.eq]
        rfl
      · rw [hpush]
        rfl

theorem freeRtosSetsockopt_timebaseOf (s : SockId) (lOptionName ulOptionValue : Int) :
    Keeps (Same timebaseOf) (freeRtosSetsockopt s lOptionName ulOptionValue) := by
  apply ((loadBaseSocket_heapStep s).mono HeapStep.timebaseOf).bind
  intro x
  have hstore (y : BaseSocket) (r : Int) : Keeps (Same timebaseOf) (storeBaseSocket s y >>= fun _ => (pure r : M Int)) :=
    fun _ => rfl
  exact Keeps.ite (hstore _ _) (Keeps.ite (hstore _ _) (Keeps.pure _))

theorem freeRtosTsnSetsockopt_timebaseOf (t : Addr) (lOptionName ulOptionValue : Int) :
    Keeps (Same timebaseOf) (freeRtosTsnSetsockopt cfg t lOptionName ulOptionValue) := by
  apply ((loadTsnSocket_heapStep t).mono HeapStep.timebaseOf).bind
  intro s
  have hstore (x : TSNSocket) : Keeps (Same timebaseOf) (storeBlock t (.tsnSocket x) >>= fun _ => (pure 0 : M Int)) :=
    fun _ => rfl
  have hreset (x : TSNSocket) : Keeps (Same timebaseOf)
      (xQueueReset s.xErrQueue >>= fun _ => storeBlock t (.tsnSocket x) >>= fun _ => (pure 0 : M Int)) := fun _ => rfl
  repeat' apply Keeps.ite
  all_goals first
    | exact hstore _
    | exact hreset _
    | exact Keeps.pure _
    | exact freeRtosSetsockopt_timebaseOf _ _ _

/-! ## The driver -/

/-- `n` calls worked on buffers, and the frame in `b` is where it was and from the same port. -/
structure Prepared (b : BufId) (n : Nat) (w w' : World) : Prop where
  buffersOnly : BuffersOnly w w'
  calls : w'.calls = w.calls + n
  pucEthernetBuffer : (w'.bufs b).pucEthernetBuffer = (w.bufs b).pucEthernetBuffer
  usBoundPort : (w'.bufs b).usBoundPort = (w.bufs b).usBoundPort

theorem Prepared.refl (b : BufId) (w : World) : Prepared b 0 w w := ⟨refl_of BuffersOnly w, rfl, rfl, rfl⟩

theorem Prepared.trans {m n : Nat} {w₁ w₂ : World} (h : Prepared b m w w₁) (h' : Prepared b n w₁ w₂) :
    Prepared b (m + n) w w₂ where
  buffersOnly := trans_of BuffersOnly h.buffersOnly h'.buffersOnly
  calls := by rw [h'.calls, h.calls, Nat.add_assoc]
  pucEthernetBuffer := h'.pucEthernetBuffer.trans h.pucEthernetBuffer
  usBoundPort := h'.usBoundPort.trans h.usBoundPort

theorem Prepared.env {n : Nat} (h : Prepared b n w w') : w'.env = w.env := by rw [h.buffersOnly.eq]

section Driver

variable {i : IfaceId} {c : BufId} {off : Nat}

theorem prvInsertVLANTag_prepared (hp : (w.bufs b).pucEthernetBuffer = .eth c off)
    (h : w.env.pxResizeNetworkBufferWithDescriptor w.calls = true) (usTCI usTPID : UInt16) :
    ∃ w', (prvInsertVLANTag b usTCI usTPID).run w = .ok (some b) w' ∧ Prepared b 1 w w' := by
  have hrun : ∃ w', (prvInsertVLANTag b usTCI usTPID).run w = .ok (some b) w' ∧ w'.calls = w.calls + 1 ∧
      w'.bufs b = { w.bufs b with xDataLength := wrap32 ((w.bufs b).xDataLength + vlanTagSize) } := by
    simp -implicitDefEqProofs [prvInsertVLANTag, pxResizeNetworkBufferWithDescriptor, nextCall, h, hp]
  obtain ⟨w', hrun, hcalls, hb⟩ := hrun
  exact ⟨w', hrun, (prvInsertVLANTag_buffersOnly b _ _).ok hrun, hcalls, by rw [hb], by rw [hb]⟩

theorem prvInsertVLANTag_some_inv {usTCI usTPID : UInt16} {b' : BufId}
    (h : (prvInsertVLANTag b usTCI usTPID).run w = .ok (some b') w') :
    (∃ c off, (w.bufs b).pucEthernetBuffer = .eth c off) ∧
      w.env.pxResizeNetworkBufferWithDescriptor w.calls = true := by
  cases hres : w.env.pxResizeNetworkBufferWithDescriptor w.calls with
  | false =>
      rw [prvInsertVLANTag_failed hres] at h
      cases h
  | true =>
      cases hp : (w.bufs b).pucEthernetBuffer with
      | eth c off => exact ⟨⟨c, off, rfl⟩, rfl⟩
      | blk a =>
          simp -implicitDefEqProofs [prvInsertVLANTag, pxResizeNetworkBufferWithDescriptor, nextCall, hres, hp, moveBytes,
            ethOf] at h

theorem prvInsertInterfaceTags_prepared (hp : (w.bufs b).pucEthernetBuffer = .eth c off) {n : NetworkInterfaceConfig}
    (h : ∀ k < uxInsertedTags cfg n, w.env.pxResizeNetworkBufferWithDescriptor (w.calls + k) = true) :
    ∃ w', (prvInsertInterfaceTags cfg n b).run w = .ok true w' ∧ Prepared b (uxInsertedTags cfg n) w w' := by
  by_cases h0 : uxInsertedTags cfg n = 0
  · exact ⟨w, prvInsertInterfaceTags_none h0, h0 ▸ .refl b w⟩
  obtain ⟨w₁, h₁, hw₁⟩ := prvInsertVLANTag_prepared hp (h 0 (Nat.pos_of_ne_zero h0)) n.usVLANTag vlantagTpidDefault
  rcases uxInsertedTags_one_or_two h0 with hk | hk
  · exact ⟨w₁, prvInsertInterfaceTags_one hk h₁, hk ▸ hw₁⟩
  · have hsecond : w₁.env.pxResizeNetworkBufferWithDescriptor w₁.calls = true := by
      rw [hw₁.env, hw₁.calls]
      exact h 1 (by omega)
    obtain ⟨w₂, h₂, hw₂⟩ := prvInsertVLANTag_prepared (hw₁.pucEthernetBuffer.trans hp) hsecond n.usServiceVLANTag
      vlantagTpidDoubleTag
    exact ⟨w₂, prvInsertInterfaceTags_two hk h₁ h₂, hk ▸ hw₁.trans hw₂⟩

/-- All the tags were inserted. -/
theorem prvInsertInterfaceTags_true_inv {n : NetworkInterfaceConfig}
    (h : (prvInsertInterfaceTags cfg n b).run w = .ok true w') :
    (∀ k < uxInsertedTags cfg n, w.env.pxResizeNetworkBufferWithDescriptor (w.calls + k) = true) ∧
      Prepared b (uxInsertedTags cfg n) w w' := by
  by_cases h0 : uxInsertedTags cfg n = 0
  · cases (prvInsertInterfaceTags_none h0).symm.trans h
    exact ⟨by omega, h0 ▸ .refl b w⟩
  obtain ⟨hw, hone, hmin⟩ := uxInsertedTags_ne_zero h0
  have hrun := h
  rw [prvInsertInterfaceTags, if_pos hw, if_pos hone] at h
  obtain ⟨r₁, w₁, h₁, h⟩ := run_bind_inv h
  cases r₁ with
  | none => cases h
  | some b₁ =>
      obtain ⟨⟨c, off, hp⟩, hfirst⟩ := prvInsertVLANTag_some_inv h₁
      obtain ⟨w₁', h₁', hw₁⟩ := prvInsertVLANTag_prepared hp hfirst n.usVLANTag vlantagTpidDefault
      cases h₁'.symm.trans h₁
      have hres : ∀ k < uxInsertedTags cfg n, w.env.pxResizeNetworkBufferWithDescriptor (w.calls + k) = true := by
        intro k hk
        cases k with
        | zero => exact hfirst
        | succ k =>
            have htwo : n.xNumTags ≥ 2 := by omega
            dsimp only at h
            rw [if_pos htwo] at h
            obtain ⟨r₂, w₂, h₂, h⟩ := run_bind_inv h
            cases r₂ with
            | none => cases h
            | some b₂ =>
                obtain ⟨-, hsecond⟩ := prvInsertVLANTag_some_inv h₂
                obtain rfl : k = 0 := by omega
                rwa [hw₁.env, hw₁.calls] at hsecond
      obtain ⟨w₂, h₂, hw₂⟩ := prvInsertInterfaceTags_prepared hp hres
      cases h₂.symm.trans hrun
      exact ⟨hres, hw₂⟩

theorem run_xMacNetworkInterfaceOutput_prepared (hp : (w.bufs b).pucEthernetBuffer = .eth c off)
    (bReleaseAfterSend : Bool) :
    ∃ w', (xMacNetworkInterfaceOutput b bReleaseAfterSend).run w = .ok (w.env.xMacNetworkInterfaceOutput w.calls) w' ∧
      Prepared b 1 w w' := by
  have hrun : ∃ w', (xMacNetworkInterfaceOutput b bReleaseAfterSend).run w =
      .ok (w.env.xMacNetworkInterfaceOutput w.calls) w' ∧ w'.calls = w.calls + 1 ∧ w'.bufs = w.bufs := by
    cases hs : w.env.xMacNetworkInterfaceOutput w.calls <;> cases bReleaseAfterSend <;>
      simp -implicitDefEqProofs [xMacNetworkInterfaceOutput, nextCall, hp, hs]
  obtain ⟨w', hrun, hcalls, hb⟩ := hrun
  exact ⟨w', hrun, (xMacNetworkInterfaceOutput_buffersOnly b _).ok hrun, hcalls, by rw [hb], by rw [hb]⟩

/-- A frame that the driver reads is in an Ethernet buffer. -/
theorem xMacNetworkInterfaceOutput_inv {bReleaseAfterSend bSent : Bool}
    (h : (xMacNetworkInterfaceOutput b bReleaseAfterSend).run w = .ok bSent w') :
    ∃ c off, (w.bufs b).pucEthernetBuffer = .eth c off := by
  cases hp : (w.bufs b).pucEthernetBuffer with
  | eth c off => exact ⟨c, off, rfl⟩
  | blk a =>
      simp -implicitDefEqProofs [xMacNetworkInterfaceOutput, nextCall, hp, readBytes, ethOf] at h

theorem DriverTakes.run (h : DriverTakes cfg w i b) (bReleaseAfterSend : Bool) :
    ∃ w', (prvGiveToDriver cfg i b bReleaseAfterSend).run w = .ok true w' ∧
      Prepared b (uxInsertedTags cfg (w.interfaces i) + 1) w w' := by
  obtain ⟨c, off, hp⟩ := h.pucEthernetBuffer
  obtain ⟨w₁, h₁, hw₁⟩ := prvInsertInterfaceTags_prepared hp h.resized
  obtain ⟨w₂, h₂, hw₂⟩ := run_xMacNetworkInterfaceOutput_prepared (hw₁.pucEthernetBuffer.trans hp) bReleaseAfterSend
  rw [hw₁.env, hw₁.calls, h.sent] at h₂
  refine ⟨w₂, ?_, hw₁.trans hw₂⟩
  rw [prvGiveToDriver, run_bind_ok (EStateM.run_get w), run_bind_ok h₁]
  exact h₂

theorem DriverTakes.of_run {bReleaseAfterSend : Bool}
    (h : (prvGiveToDriver cfg i b bReleaseAfterSend).run w = .ok true w') : DriverTakes cfg w i b := by
  rw [prvGiveToDriver, run_bind_ok (EStateM.run_get w)] at h
  obtain ⟨bInserted, w₁, h₁, h⟩ := run_bind_inv h
  cases bInserted with
  | false => cases h
  | true =>
      obtain ⟨hres, hw₁⟩ := prvInsertInterfaceTags_true_inv h₁
      obtain ⟨c, off, hp⟩ := xMacNetworkInterfaceOutput_inv h
      obtain ⟨w₂, h₂, -⟩ := run_xMacNetworkInterfaceOutput_prepared hp bReleaseAfterSend
      refine ⟨⟨c, off, hw₁.pucEthernetBuffer.symm.trans hp⟩, hres, ?_⟩
      rw [← hw₁.env, ← hw₁.calls]
      exact (EStateM.Result.ok.inj (h₂.symm.trans h)).1

end Driver

/-! ## Filling the control messages -/

section Fill

variable {m t : Addr} {s : TSNSocket}

/-- The socket asks for timestamps with this flag. -/
def asksFor (w : World) (t : Addr) (flag : Nat) : Prop :=
  ∃ s, w.heap t = some (.tsnSocket s) ∧ hasFlag s.ulTSFlags flag = true

theorem loadTsnSocket_cases (w : World) (t : Addr) :
    (∃ s, w.heap t = some (.tsnSocket s)) ∨ ∃ e w', (loadTsnSocket t).run w = .error e w' := by
  cases h : (loadTsnSocket t).run w with
  | ok s w' => exact .inl ⟨s, (loadTsnSocket_inv h).2⟩
  | error e w' => exact .inr ⟨e, w', rfl⟩

theorem fillForRx_reaches (hasks : asksFor w t sofTimestampingRxSoftware)
    (hstate : w.xTimebaseState = .eTimebaseEnabled) (m : Addr) :
    Reaches id (fun acquire => prvAncillaryMsgControlFillForRxBy acquire m t) w w := by
  obtain ⟨s, hs, hflag⟩ := hasks
  apply Reaches.after (run_loadTsnSocket hs)
  apply Reaches.after (EStateM.run_get w)
  apply Reaches.ite_pos
  · rw [hflag, hstate]
    rfl
  · exact (Reaches.self id w).seq _

theorem fillForRx_eq (h : ¬(asksFor w t sofTimestampingRxSoftware ∧ w.xTimebaseState = .eTimebaseEnabled))
    (acquire : M Timespec) (m : Addr) :
    (prvAncillaryMsgControlFillForRxBy acquire m t).run w = (prvFillNothing m t).run w := by
  rcases loadTsnSocket_cases w t with ⟨s, hs⟩ | ⟨e, w', he⟩
  · have hno : ¬(hasFlag s.ulTSFlags sofTimestampingRxSoftware && w.xTimebaseState == .eTimebaseEnabled) = true := by
      intro hc
      rw [Bool.and_eq_true, beq_iff_eq] at hc
      exact h ⟨⟨s, hs, hc.1⟩, hc.2⟩
    rw [prvAncillaryMsgControlFillForRxBy, prvFillNothing, run_bind_ok (run_loadTsnSocket hs),
      run_bind_ok (run_loadTsnSocket hs), run_bind_ok (EStateM.run_get w), if_neg hno]
  · rw [prvAncillaryMsgControlFillForRxBy, prvFillNothing, run_bind_error he, run_bind_error he]

theorem fillForTx_reaches (hs : w.heap t = some (.tsnSocket s))
    (hflag : hasFlag s.ulTSFlags sofTimestampingTxSoftware = true) {x : BaseSocket}
    (hx : w.baseSockets s.xBaseSocket = some x) (m : Addr) :
    Reaches id (fun acquire => prvAncillaryMsgControlFillForTxBy acquire m t) w w := by
  apply Reaches.after (run_loadTsnSocket hs)
  apply Reaches.ite_pos hflag
  apply Reaches.after (run_loadBaseSocket hx)
  exact (Reaches.self id w).seq _

theorem fillForTx_eq (h : ¬asksFor w t sofTimestampingTxSoftware) (acquire : M Timespec) (m : Addr) :
    (prvAncillaryMsgControlFillForTxBy acquire m t).run w = (prvFillNothing m t).run w := by
  rcases loadTsnSocket_cases w t with ⟨s, hs⟩ | ⟨e, w', he⟩
  · rw [prvAncillaryMsgControlFillForTxBy, prvFillNothing, run_bind_ok (run_loadTsnSocket hs),
      run_bind_ok (run_loadTsnSocket hs), if_neg fun hflag => h ⟨s, hs, hflag⟩]
  · rw [prvAncillaryMsgControlFillForTxBy, prvFillNothing, run_bind_error he, run_bind_error he]

end Fill

/-! ## Received packets -/

/-- The calls of a function that fills control messages. -/
abbrev fills : Addr × Addr → Fill → M Nat := fun x fill => fill x.1 x.2

theorem prvBuildMsghBy_atMostOnce (b : BufId) (pxTSNSocket : Addr) (f : ParsedFrame) (w : World) :
    AtMostOnce (Same timebaseOf) fills (fun fill => prvBuildMsghBy fill b pxTSNSocket f) w := by
  apply AtMostOnce.after (pxAncillaryMsgMalloc_heapStep.mono HeapStep.timebaseOf)
  intro pxMsgh w
  exact (AtMostOnce.call (pxMsgh, pxTSNSocket)).seq _

theorem prvMsghForBy_atMostOnce (b : BufId) (f : ParsedFrame) (w : World) :
    AtMostOnce (Same timebaseOf) fills (fun fill => prvMsghForBy fill b f) w := by
  apply AtMostOnce.ite (.const _)
  apply AtMostOnce.after ((vSocketFromPort_heapStep _).mono HeapStep.timebaseOf)
  rintro ⟨xSocket, xTSNSocket⟩ w
  cases xTSNSocket with
  | some pxTSNSocket => exact (prvBuildMsghBy_atMostOnce b pxTSNSocket f w).seq _
  | none =>
      cases xSocket with
      | some _ => exact .const _
      | none => exact .const _

/-- The control messages of a received packet are filled at most once. -/
theorem xReceiveBy_atMostOnce (cfg : Config) (b : BufId) (t : Nat) (w : World) :
    AtMostOnce (Same timebaseOf) fills (fun fill => xReceiveBy fill cfg b t) w := by
  have hreceive : AtMostOnce (Same timebaseOf) fills (fun fill => prvHandleReceiveBy fill b) w := by
    apply AtMostOnce.after ((prvParseFrame_buffersOnly b).mono BuffersOnly.timebaseOf)
    intro f w
    exact (prvMsghForBy_atMostOnce b f w).seq _
  exact hreceive.seq _

instance : Nontrivial Fault := ⟨.null, .heap, nofun⟩

theorem Guarded.of_never {α : Type} {path : Fill → M α} (h : Never path w) (fillBy : M Timespec → Fill) :
    Guarded path fillBy w where
  invoked _ hinv := absurd hinv (h.comp fillBy).not_invokes
  otherwise _ := h.eq _ _

/-- The guard of `prvAncillaryMsgControlFillForRx`. -/
theorem receive_guarded (hw : TimebaseOk w) (b : BufId) (t : Nat) :
    Guarded (fun fill => xReceiveBy fill cfg b t) prvAncillaryMsgControlFillForRxBy w := by
  rcases xReceiveBy_atMostOnce cfg b t w with hnever | ⟨⟨pxMsgh, pxTSNSocket⟩, w₁, hsame, hreach⟩
  · exact .of_never hnever _
  have hstate : w₁.xTimebaseState = w.xTimebaseState := congrArg Prod.fst hsame
  have hby := hreach.comp prvAncillaryMsgControlFillForRxBy
  by_cases hc : asksFor w₁ pxTSNSocket sofTimestampingRxSoftware ∧ w₁.xTimebaseState = .eTimebaseEnabled
  · refine ⟨fun w' hinv => ?_, fun hne => absurd (hstate.symm.trans hc.2) hne⟩
    obtain rfl := (hby.trans (fillForRx_reaches hc.1 hc.2 pxMsgh)).eq_of_invokes .null hinv
    exact ⟨hc.2, timebaseOk_congr hsame hw hc.2⟩
  · have hsilent := hby.never ⟨_, fun acquire => fillForRx_eq hc acquire pxMsgh⟩
    exact ⟨fun w' hinv => absurd hinv hsilent.not_invokes, fun _ => hreach.eq (fillForRx_eq hc _ pxMsgh)⟩

/-! ## Sent packets -/

section Sent

variable {i : IfaceId} {t : Addr} {s : TSNSocket}

/-- The frame is sent, and the rest is its report. -/
theorem SentFor.run (h : SentFor cfg w i b t s) (bReleaseAfterSend : Bool) :
    ∃ w₁, BuffersOnly w w₁ ∧ w₁.calls = msghOfSent cfg w i ∧
      ∀ fill, (xTsnNetworkInterfaceOutputBy fill cfg i b bReleaseAfterSend).run w =
        (prvReportSentBy fill cfg t >>= fun _ => (pure true : M Bool)).run w₁ := by
  obtain ⟨w₁, hrun, hw₁⟩ := h.driver.run bReleaseAfterSend
  have hl : prvLookup (w₁.bufs b).usBoundPort w₁.xTSNBoundUDPSocketList = some t := by
    rw [hw₁.usBoundPort, hw₁.buffersOnly.eq]
    exact h.bound
  have hs : w₁.heap t = some (.tsnSocket s) := by
    rw [hw₁.buffersOnly.eq]
    exact h.socket
  refine ⟨w₁, hw₁.buffersOnly, hw₁.calls, fun fill => ?_⟩
  rw [xTsnNetworkInterfaceOutputBy, run_bind_ok (EStateM.run_get w), if_pos h.controller, prvOutputFromControllerBy,
    run_bind_ok hrun, prvTimestampSentBy]
  simp only [Bool.not_true, Bool.false_eq_true, if_false]
  rw [bind_assoc, run_bind_ok (run_loadBuf w₁ b), bind_assoc, run_bind_ok (run_vSocketFromPort_tsn hl hs)]

/-- The state in which the control messages of a sent frame are filled. -/
theorem SentFor.reaches (h : SentFor cfg w i b t s) (bReleaseAfterSend : Bool) :
    ∃ w₂, Same timebaseOf w w₂ ∧ w₂.heap = Function.update w.heap (msghOfSent cfg w i) (some (.msghdr {})) ∧
      Reaches (fills (msghOfSent cfg w i, t)) (fun fill => xTsnNetworkInterfaceOutputBy fill cfg i b bReleaseAfterSend)
        w w₂ := by
  obtain ⟨w₁, hw₁, hcalls, hrun⟩ := h.run bReleaseAfterSend
  have hm : w₁.env.pvPortMalloc w₁.calls = true := by
    rw [hcalls, hw₁.eq]
    exact h.msgh
  have hreach : Reaches (fills (w₁.calls, t)) (fun fill => prvReportSentBy fill cfg t) w₁
      (w₁.tick.setBlock w₁.calls (some (.msghdr {}))) :=
    .after (run_pxAncillaryMsgMalloc_ok hm) ((Reaches.self _ _).seq _)
  rw [← hcalls]
  refine ⟨_, ?_, ?_, Reaches.trans ⟨_, hrun⟩ hreach⟩
  · rw [Same, hw₁.eq]
    rfl
  · rw [World.setBlock_heap, World.tick_heap, hw₁.eq]

theorem prvTimestampSentBy_never
    (h : ¬∃ t s, prvLookup (w.bufs b).usBoundPort w.xTSNBoundUDPSocketList = some t ∧
      w.heap t = some (.tsnSocket s) ∧ w.env.pvPortMalloc w.calls = true) :
    Never (fun fill => prvTimestampSentBy fill cfg b) w := by
  apply Never.after (run_loadBuf w b)
  cases hl : prvLookup (w.bufs b).usBoundPort w.xTSNBoundUDPSocketList with
  | none => exact .after (run_vSocketFromPort_plain hl) (.const _)
  | some t =>
      rcases loadTsnSocket_cases w t with ⟨s, hs⟩ | ⟨e, w', he⟩
      · apply Never.after (run_vSocketFromPort_tsn hl hs)
        have hm : w.env.pvPortMalloc w.calls = false := Bool.eq_false_iff.mpr fun hm => h ⟨t, s, hl, hs, hm⟩
        exact .stopped _ (pxAncillaryMsgMalloc_null hm)
      · have hfind : (vSocketFromPort (w.bufs b).usBoundPort).run w = .error e w' := by
          rw [vSocketFromPort, run_bind_ok (EStateM.run_get w), hl]
          dsimp only
          rw [run_bind_error he]
        exact .stopped _ hfind

theorem xTsnNetworkInterfaceOutputBy_never (h : ¬∃ t s, SentFor cfg w i b t s) (bReleaseAfterSend : Bool) :
    Never (fun fill => xTsnNetworkInterfaceOutputBy fill cfg i b bReleaseAfterSend) w := by
  apply Never.after (EStateM.run_get w)
  apply Never.ite
  · intro hcontroller
    cases hrun : (prvGiveToDriver cfg i b bReleaseAfterSend).run w with
    | error e w₁ => exact .stopped _ hrun
    | ok bSent w₁ =>
        apply Never.after hrun
        cases bSent with
        | false => exact .const _
        | true =>
            have hdriver := DriverTakes.of_run hrun
            obtain ⟨w₁', hrun', hw₁⟩ := hdriver.run bReleaseAfterSend
            cases hrun'.symm.trans hrun
            refine (prvTimestampSentBy_never ?_).seq _
            rintro ⟨t, s, hl, hs, hm⟩
            rw [hw₁.usBoundPort, hw₁.buffersOnly.eq] at hl
            rw [hw₁.buffersOnly.eq] at hs
            rw [hw₁.env, hw₁.calls] at hm
            exact h ⟨t, s, hcontroller, hdriver, hl, hs, hm⟩
  · intro _
    exact .const _

/-- Where the control messages of a sent frame are filled, the socket asks for its timestamp as before. -/
theorem SentFor.asksFor_iff {w₂ : World} (h : SentFor cfg w i b t s)
    (hheap : w₂.heap = Function.update w.heap (msghOfSent cfg w i) (some (.msghdr {}))) :
    asksFor w₂ t sofTimestampingTxSoftware ↔
      t ≠ msghOfSent cfg w i ∧ hasFlag s.ulTSFlags sofTimestampingTxSoftware = true := by
  rw [asksFor, hheap]
  by_cases ht : t = msghOfSent cfg w i
  · simp [ht]
  · simp [ht, h.socket]

theorem run_loadBaseSocket_none {k : SockId} (h : w.baseSockets k = none) :
    (loadBaseSocket k).run w = .error .heap w := by
  rw [loadBaseSocket, run_bind_ok (EStateM.run_get w), h]
  rfl

theorem fillForTx_cases (h : asksFor w t sofTimestampingTxSoftware) (m : Addr) :
    Reaches id (fun acquire => prvAncillaryMsgControlFillForTxBy acquire m t) w w ∨
      ∃ e w', ∀ acquire, (prvAncillaryMsgControlFillForTxBy acquire m t).run w = .error e w' := by
  obtain ⟨s, hs, hflag⟩ := h
  cases hx : w.baseSockets s.xBaseSocket with
  | some x => exact .inl (fillForTx_reaches hs hflag hx m)
  | none =>
      refine .inr ⟨.heap, w, fun acquire => ?_⟩
      rw [prvAncillaryMsgControlFillForTxBy, run_bind_ok (run_loadTsnSocket hs), if_pos hflag,
        run_bind_error (run_loadBaseSocket_none hx)]

/-- A timestamp that is asked for is acquired without a guard. -/
theorem transmit_guarded (hw : TimebaseOk w) (hfits : w.xTimebaseState = .eTimebaseEnabled ∨ ¬AsksForTx cfg w i b)
    (bReleaseAfterSend : Bool) :
    Guarded (fun fill => xTsnNetworkInterfaceOutputBy fill cfg i b bReleaseAfterSend) prvAncillaryMsgControlFillForTxBy
      w := by
  by_cases hsent : ∃ t s, SentFor cfg w i b t s
  · obtain ⟨t, s, hsent⟩ := hsent
    obtain ⟨w₂, hsame, hheap, hreach⟩ := hsent.reaches bReleaseAfterSend
    have hby := hreach.comp prvAncillaryMsgControlFillForTxBy
    by_cases hasks : asksFor w₂ t sofTimestampingTxSoftware
    · obtain ⟨hne, hflag⟩ := (hsent.asksFor_iff hheap).mp hasks
      have henabled := hfits.resolve_right (not_not_intro ⟨t, s, hsent, hne, hflag⟩)
      refine ⟨fun w' hinv => ?_, fun hno => absurd henabled hno⟩
      rcases fillForTx_cases hasks (msghOfSent cfg w i) with hcall | ⟨e, w₃, hfault⟩
      · obtain rfl := (hby.trans hcall).eq_of_invokes .null hinv
        have hstate := (congrArg Prod.fst hsame).trans henabled
        exact ⟨hstate, timebaseOk_congr hsame hw hstate⟩
      · exact absurd hinv (hby.never ⟨_, hfault⟩).not_invokes
    · have hsilent := hby.never ⟨_, fun acquire => fillForTx_eq hasks acquire (msghOfSent cfg w i)⟩
      exact ⟨fun w' hinv => absurd hinv hsilent.not_invokes, fun _ => hreach.eq (fillForTx_eq hasks _ _)⟩
  · exact .of_never (xTsnNetworkInterfaceOutputBy_never hsent bReleaseAfterSend) _

/-- A message that nothing is filled into is freed again. -/
theorem run_prvReportSentBy_nothing (cfg : Config) (hs : w.heap t = some (.tsnSocket s)) (hne : t ≠ w.calls)
    (hm : w.env.pvPortMalloc w.calls = true) : ∃ w', (prvReportSentBy prvFillNothing cfg t).run w = .ok () w' := by
  have hs' : (w.tick.setBlock w.calls (some (.msghdr {}))).heap t = some (.tsnSocket s) := by
    rw [World.setBlock_heap, Function.update_of_ne hne]
    exact hs
  have hmsgh : (w.tick.setBlock w.calls (some (.msghdr {}))).heap w.calls = some (.msghdr {}) := by
    rw [World.setBlock_heap, Function.update_self]
  have hrun : (prvReportSentBy prvFillNothing cfg t).run w = (vPortFree w.calls).run
      ((w.tick.setBlock w.calls (some (.msghdr {}))).setBlock w.calls (some (.msghdr {}))) := by
    rw [prvReportSentBy, run_bind_ok (run_pxAncillaryMsgMalloc_ok hm), prvFillNothing, bind_assoc,
      run_bind_ok (run_loadTsnSocket hs'), prvClearControl, bind_assoc, bind_assoc, run_bind_ok (run_loadMsghdr hmsgh),
      run_bind_ok (run_storeMsghdr _ _ _), pure_bind, if_neg (Nat.lt_irrefl 0)]
    rfl
  exact ⟨_, hrun.trans (run_vPortFree (Function.update_self _ _ _))⟩

/-- Without a timebase, what was asked for is acquired all the same. -/
theorem transmit_not_guarded (hasks : AsksForTx cfg w i b) (hstate : w.xTimebaseState ≠ .eTimebaseEnabled)
    (bReleaseAfterSend : Bool) :
    ¬Guarded (fun fill => xTsnNetworkInterfaceOutputBy fill cfg i b bReleaseAfterSend) prvAncillaryMsgControlFillForTxBy
      w := by
  intro hguard
  obtain ⟨t, s, hsent, hne, hflag⟩ := hasks
  obtain ⟨w₂, hsame, hheap, hreach⟩ := hsent.reaches bReleaseAfterSend
  have hby := hreach.comp prvAncillaryMsgControlFillForTxBy
  rcases fillForTx_cases ((hsent.asksFor_iff hheap).mpr ⟨hne, hflag⟩) (msghOfSent cfg w i) with
    hcall | ⟨e, w₃, hfault⟩
  · have henabled := (hguard.invoked w₂ (hby.trans hcall).invokes).1
    exact hstate ((congrArg Prod.fst hsame).symm.trans henabled)
  · -- The socket lost its base socket: the report fails before the callback, and no message is freed.
    obtain ⟨w₁, hw₁, hcalls, hrun⟩ := hsent.run bReleaseAfterSend
    have hs : w₁.heap t = some (.tsnSocket s) := by
      rw [hw₁.eq]
      exact hsent.socket
    have hm : w₁.env.pvPortMalloc w₁.calls = true := by
      rw [hcalls, hw₁.eq]
      exact hsent.msgh
    obtain ⟨w₄, hnothing⟩ := run_prvReportSentBy_nothing cfg hs (hcalls ▸ hne) hm
    have heq := hguard.otherwise hstate
    rw [hby.stopped (hfault _), hrun, run_bind_ok hnothing] at heq
    cases heq

end Sent

/-! ## Runs -/

theorem receive_timebaseOf (b : BufId) (t : Nat) :
    Keeps (Same timebaseOf) (xSendEventStructToTsnController cfg .eNetworkRxEvent b t) := by
  have hreceive : Keeps (Same timebaseOf) (prvHandleReceive b) := by
    apply ((prvParseFrame_buffersOnly b).mono BuffersOnly.timebaseOf).bind
    intro f
    apply ((prvMsghFor_heapStep b f).mono HeapStep.timebaseOf).bind
    intro r
    cases r with
    | none => exact Keeps.pure _
    | some pxMsgh =>
        apply ((pvPortMalloc_heapStep _).mono HeapStep.timebaseOf).bind
        intro a
        cases a with
        | none => exact Keeps.pure _
        | some _ => exact Keeps.pure _
  apply hreceive.bind
  intro r
  cases r with
  | none => exact Keeps.pure _
  | some xItem => exact insert_timebaseOf xItem t

theorem transmit_timebaseOf (i : IfaceId) (b : BufId) (bReleaseAfterSend : Bool) :
    Keeps (Same timebaseOf) (xTsnNetworkInterfaceOutput cfg i b bReleaseAfterSend) := by
  have hsent : Keeps (Same timebaseOf) (prvTimestampSent cfg b) :=
    prvTimestampSent_keeps HeapStep.timebaseOf (fun _ _ _ => rfl) cfg b
  apply Keeps.get
  intro w
  split
  · rw [prvOutputFromController_eq]
    refine ((prvGiveToDriver_buffersOnly i b _).mono BuffersOnly.timebaseOf).bind (fun bSent => ?_) w
    cases bSent with
    | false => exact Keeps.pure _
    | true => exact hsent.bind fun _ => Keeps.pure _
  · exact insert_timebaseOf _ _ w

/-- A handle that is taken makes the timebase enabled. -/
theorem xTimebaseHandleSet_timebaseOk (pxTimebase : TimebaseHandle) (hw : TimebaseOk w) :
    TimebaseOk (lastState ((xTimebaseHandleSet pxTimebase).run w)) := by
  rw [xTimebaseHandleSet, run_bind_ok (EStateM.run_get w)]
  split
  · exact hw
  · split
    · exact hw
    · exact fun _ => rfl

theorem TimebaseAction.code_timebaseOk (a : TimebaseAction) (hw : TimebaseOk w) (hrun : (a.code cfg).run w = .ok () w') :
    TimebaseOk w' := by
  have hkeep {α : Type} {x : M α} (h : Keeps (Same timebaseOf) x) (hx : (x >>= fun _ => pure ()).run w = .ok () w') :
      TimebaseOk w' := timebaseOk_congr ((h.bind fun _ => Keeps.pure ()).ok hx) hw
  cases a with
  | handleSet pxTimebase =>
      obtain ⟨r, w₁, hset, h⟩ := run_bind_inv hrun
      cases h
      have := xTimebaseHandleSet_timebaseOk pxTimebase hw
      rwa [hset] at this
  | setsockopt t lOptionName ulOptionValue => exact hkeep (freeRtosTsnSetsockopt_timebaseOf t _ _) hrun
  | receive b t => exact hkeep (receive_timebaseOf b t) hrun
  | transmit i b bReleaseAfterSend => exact hkeep (transmit_timebaseOf i b _) hrun

/-- **Step**: the packet of an action is handled as expected exactly when the action fits. -/
theorem TimebaseAction.guarded_iff (a : TimebaseAction) (hw : TimebaseOk w) : a.Guarded cfg w ↔ a.Fits cfg w := by
  cases a with
  | handleSet pxTimebase => exact Iff.rfl
  | setsockopt t lOptionName ulOptionValue => exact Iff.rfl
  | receive b t => exact iff_of_true (receive_guarded hw b t) trivial
  | transmit i b bReleaseAfterSend =>
      refine ⟨fun h => ?_, fun hfits => transmit_guarded hw hfits bReleaseAfterSend⟩
      by_contra hno
      obtain ⟨hstate, hasks⟩ := not_or.mp hno
      exact transmit_not_guarded (not_not.mp hasks) hstate bReleaseAfterSend h

/-- In a run the timebase is enabled only with its handle. -/
theorem TimebaseRun.timebaseOk {log : List (World × TimebaseAction)} {o : Option World} (h : TimebaseRun cfg log o) :
    (∀ p ∈ log, TimebaseOk p.1) ∧ ∀ w ∈ o, TimebaseOk w := by
  induction h with
  | boot env =>
      refine ⟨fun _ h => (nomatch h), fun w h => ?_⟩
      cases h
      exact nofun
  | other _ hsame ih =>
      refine ⟨ih.1, fun w h => ?_⟩
      cases h
      exact timebaseOk_congr hsame (ih.2 _ rfl)
  | act _ hrun ih =>
      refine ⟨List.forall_mem_append.mpr ⟨ih.1, List.forall_mem_singleton.mpr (ih.2 _ rfl)⟩, fun w h => ?_⟩
      cases h
      exact TimebaseAction.code_timebaseOk _ (ih.2 _ rfl) hrun
  | fault _ _ ih =>
      refine ⟨List.forall_mem_append.mpr ⟨ih.1, List.forall_mem_singleton.mpr (ih.2 _ rfl)⟩, fun w h => ?_⟩
      cases h

end FreeRtosTsn.Resources
