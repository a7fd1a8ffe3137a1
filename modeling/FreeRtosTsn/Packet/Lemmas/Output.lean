import FreeRtosTsn.Packet.Lemmas.Tags
import FreeRtosTsn.Packet.Spec
import FreeRtosTsn.Scheduler.Filter

/-!
# Sending a buffer

Who releases the buffer on each way through the wrapper, and what is left in it.
-/

namespace FreeRtosTsn.Packet

open Lib Kernel Scheduler

/-! ## Releases -/

@[simp] theorem releases_release (w : World) (b : BufId) : releases (w.release b) b = releases w b + 1 := by
  simp [releases]

theorem releases_of_released {w w' : World} (h : w'.released = w.released) (b : BufId) :
    releases w' b = releases w b := by
  rw [releases, releases, h]

theorem frameOf_congr {w w' : World} {b : BufId} (hb : w'.bufs b = w.bufs b) (hm : w'.mem b = w.mem b) :
    frameOf w' b = frameOf w b := by
  rw [frameOf, frameOf, hb, hm]

theorem owned_of_same {w w' : World} {b : BufId} (hb : w'.bufs b = w.bufs b) (hm : w'.mem b = w.mem b)
    (hr : releases w' b = releases w b) : Owned b false w w' :=
  ⟨hr, hb, frameOf_congr hb hm⟩

/-! ## Tags -/

section Tags

variable {w : World} {b : BufId}

theorem wrap32_add_tag_ne (n : Nat) : wrap32 (n + vlanTagSize) ≠ n := by
  simp only [wrap32, vlanTagSize]
  omega

theorem wrap32_add_tags_ne (n : Nat) : wrap32 (wrap32 (n + vlanTagSize) + vlanTagSize) ≠ n := by
  simp only [wrap32, vlanTagSize]
  omega

theorem prvInsertVLANTag_cases (hp : (w.bufs b).pucEthernetBuffer = .eth b 0) (usTCI usTPID : UInt16) :
    (∃ w', (prvInsertVLANTag b usTCI usTPID).run w = .ok (some b) w' ∧ releases w' b = releases w b ∧
      (w'.bufs b).pucEthernetBuffer = .eth b 0 ∧
      (w'.bufs b).xDataLength = wrap32 ((w.bufs b).xDataLength + vlanTagSize)) ∨
    ∃ w', (prvInsertVLANTag b usTCI usTPID).run w = .ok none w' ∧ releases w' b = releases w b + 1 := by
  cases h : w.env.pxResizeNetworkBufferWithDescriptor w.calls with
  | true =>
      obtain ⟨w', hrun, -, hr, hb, -⟩ := prvInsertVLANTag_ok hp h usTCI usTPID
      exact .inl ⟨w', hrun, releases_of_released hr b, by rw [hb]; exact hp, by rw [hb]⟩
  | false => exact .inr ⟨_, prvInsertVLANTag_failed h usTCI usTPID, releases_release w.tick b⟩

/-- With tags to insert, the length is another one afterwards, or the buffer is released. -/
theorem prvInsertInterfaceTags_cases {cfg : Config} {c : NetworkInterfaceConfig}
    (hp : (w.bufs b).pucEthernetBuffer = .eth b 0) (hc : uxInsertedTags cfg c ≠ 0) :
    (∃ w', (prvInsertInterfaceTags cfg c b).run w = .ok true w' ∧ releases w' b = releases w b ∧
      (w'.bufs b).pucEthernetBuffer = .eth b 0 ∧ (w'.bufs b).xDataLength ≠ (w.bufs b).xDataLength) ∨
    ∃ w', (prvInsertInterfaceTags cfg c b).run w = .ok false w' ∧ releases w' b = releases w b + 1 := by
  rcases prvInsertVLANTag_cases hp c.usVLANTag vlantagTpidDefault with ⟨w₁, h₁, hr₁, hp₁, hl₁⟩ | ⟨w₁, h₁, hr₁⟩
  · rcases uxInsertedTags_one_or_two hc with hk | hk
    · refine .inl ⟨w₁, prvInsertInterfaceTags_one hk h₁, hr₁, hp₁, ?_⟩
      rw [hl₁]
      exact wrap32_add_tag_ne _
    · obtain ⟨w₂, h₂, hr₂, hp₂, hl₂⟩ | ⟨w₂, h₂, hr₂⟩ :=
        prvInsertVLANTag_cases hp₁ c.usServiceVLANTag vlantagTpidDoubleTag
      · refine .inl ⟨w₂, prvInsertInterfaceTags_two hk h₁ h₂, hr₂.trans hr₁, hp₂, ?_⟩
        rw [hl₂, hl₁]
        exact wrap32_add_tags_ne _
      · exact .inr ⟨w₂, prvInsertInterfaceTags_two hk h₁ h₂, by rw [hr₂, hr₁]⟩
  · exact .inr ⟨w₁, prvInsertInterfaceTags_failed hc h₁, hr₁⟩

end Tags

/-! ## The driver -/

section Controller

variable {w : World} {b : BufId}

theorem run_xMacNetworkInterfaceOutput (hp : (w.bufs b).pucEthernetBuffer = .eth b 0) (bRelease : Bool) :
    ∃ bSent w', (xMacNetworkInterfaceOutput b bRelease).run w = .ok bSent w' ∧ w'.bufs = w.bufs ∧ w'.mem = w.mem ∧
      releases w' b = if bRelease then releases w b + 1 else releases w b := by
  cases hs : w.env.xMacNetworkInterfaceOutput w.calls <;> cases bRelease <;>
    simp -implicitDefEqProofs [xMacNetworkInterfaceOutput, nextCall, hp, hs, releases]

/-- From the driver on the buffer is left alone, but for the release that was asked for. -/
theorem prvOutputFromController_tagged {cfg : Config} {i : IfaceId} {w₁ : World}
    (hins : (prvInsertInterfaceTags cfg (w.interfaces i) b).run w = .ok true w₁)
    (hp : (w₁.bufs b).pucEthernetBuffer = .eth b 0) (bRelease : Bool) :
    let w' := lastState ((prvOutputFromController cfg i b bRelease).run w)
    w'.bufs = w₁.bufs ∧ w'.mem = w₁.mem ∧ releases w' b = if bRelease then releases w₁ b + 1 else releases w₁ b := by
  obtain ⟨bSent, w₂, hmac, hb₂, hm₂, hr₂⟩ := run_xMacNetworkInterfaceOutput hp bRelease
  have hrun : (prvOutputFromController cfg i b bRelease).run w =
      (if bSent then (prvTimestampSent cfg b >>= fun _ => pure true : M Bool) else pure false).run w₂ := by
    rw [prvOutputFromController, run_bind_ok (EStateM.run_get w), run_bind_ok hins]
    simp only [Bool.not_true, Bool.false_eq_true, if_false]
    rw [run_bind_ok hmac]
    cases bSent <;> rfl
  have hkeep : Same buffersOf w₂ (lastState ((prvOutputFromController cfg i b bRelease).run w)) := by
    rw [hrun]
    cases bSent with
    | false => exact refl_of (Same buffersOf) w₂
    | true => exact (prvTimestampSent_buffersOf cfg b).bind (fun _ => Keeps.pure _) w₂
  simp only [Same, buffersOf, Prod.mk.injEq] at hkeep
  obtain ⟨hb, hm, hr, -⟩ := hkeep
  exact ⟨hb.trans hb₂, hm.trans hm₂, (releases_of_released hr b).trans hr₂⟩

theorem prvOutputFromController_refused {cfg : Config} {i : IfaceId} {w₁ : World}
    (hins : (prvInsertInterfaceTags cfg (w.interfaces i) b).run w = .ok false w₁) (bRelease : Bool) :
    (prvOutputFromController cfg i b bRelease).run w = .ok false w₁ := by
  rw [prvOutputFromController, run_bind_ok (EStateM.run_get w), run_bind_ok hins]
  rfl

/-- A buffer that was given away is released once on every path. -/
theorem prvOutputFromController_released (hp : (w.bufs b).pucEthernetBuffer = .eth b 0) (cfg : Config) (i : IfaceId) :
    Owned b true w (lastState ((prvOutputFromController cfg i b true).run w)) := by
  rw [Owned, if_pos rfl]
  by_cases hc : uxInsertedTags cfg (w.interfaces i) = 0
  · exact (prvOutputFromController_tagged (prvInsertInterfaceTags_none hc) hp true).2.2
  · rcases prvInsertInterfaceTags_cases hp hc with ⟨w₁, hins, hr₁, hp₁, -⟩ | ⟨w₁, hins, hr₁⟩
    · have h := (prvOutputFromController_tagged hins hp₁ true).2.2
      rw [h, hr₁, if_pos rfl]
    · rw [prvOutputFromController_refused hins]
      exact hr₁

/-- A buffer that was not given away is left as it was only when no tags are inserted. -/
theorem prvOutputFromController_kept (hp : (w.bufs b).pucEthernetBuffer = .eth b 0) (cfg : Config) (i : IfaceId) :
    Owned b false w (lastState ((prvOutputFromController cfg i b false).run w)) ↔
      uxInsertedTags cfg (w.interfaces i) = 0 := by
  constructor
  · intro h
    by_contra hc
    obtain ⟨hr, hb, -⟩ := h
    rcases prvInsertInterfaceTags_cases hp hc with ⟨w₁, hins, hr₁, hp₁, hl₁⟩ | ⟨w₁, hins, hr₁⟩
    · have hb₁ := (prvOutputFromController_tagged hins hp₁ false).1
      rw [hb₁] at hb
      exact hl₁ (by rw [hb])
    · rw [prvOutputFromController_refused hins, lastState_ok, hr₁] at hr
      omega
  · intro hc
    obtain ⟨hb, hm, hr⟩ := prvOutputFromController_tagged (prvInsertInterfaceTags_none hc) hp false
    exact owned_of_same (by rw [hb]) (by rw [hm]) hr

end Controller

/-! ## The queue -/

section Queue

variable {cfg : Config} {w : World} {xItem : NetworkQueueItem}

theorem exec_insert_accepted (h : Accepts cfg w xItem) (t : Nat) :
    ∃ w' q, (exec cfg (xNetworkQueueInsertPacketByFilter cfg xItem t)).run w = .ok true w' ∧
      prvChooseQueue xItem (bufferOf w xItem.pxBuf) none w.pxNetworkQueueList = some q ∧ Pushed w w' q.xQueue xItem := by
  obtain ⟨q, hq, hroom⟩ := h
  obtain ⟨w', hrun, hw'⟩ := exec_xNetworkQueuePush cfg w xItem q t
  rw [if_pos hroom] at hw'
  refine ⟨w', q, ?_, hq, hw'⟩
  simp only [exec_insert, hq, hrun, decide_eq_true hroom]

theorem exec_insert_refused (h : ¬Accepts cfg w xItem) (t : Nat) :
    (exec cfg (xNetworkQueueInsertPacketByFilter cfg xItem t)).run w = .ok false w := by
  rw [exec_insert]
  cases hq : prvChooseQueue xItem (bufferOf w xItem.pxBuf) none w.pxNetworkQueueList with
  | none => rfl
  | some q =>
      have hfull : ¬(w.queues q.xQueue).length < cfg.ipconfigEventQueueLength := fun hroom => h ⟨q, hq, hroom⟩
      obtain ⟨w', hrun, hw'⟩ := exec_xNetworkQueuePush cfg w xItem q t
      rw [if_neg hfull] at hw'
      simp only [hrun, decide_eq_false hfull, hw']

theorem exec_insert_inv {t : Nat} {w' : World}
    (h : (exec cfg (xNetworkQueueInsertPacketByFilter cfg xItem t)).run w = .ok true w') :
    ∃ q, Pushed w w' q xItem := by
  by_cases ha : Accepts cfg w xItem
  · obtain ⟨w₁, q, hrun, -, hpush⟩ := exec_insert_accepted ha t
    rw [h] at hrun
    cases hrun
    exact ⟨q.xQueue, hpush⟩
  · rw [exec_insert_refused ha t] at h
    exact nomatch h

end Queue

/-! ## The controller's call for a queued frame -/

section Serve

variable {cfg : Config} {w : World} {b : BufId} {q : NetworkQueue}

theorem run_prvServeItem_tx (hc : w.bCallingFromController = true) {e : EndPointId}
    (he : (w.bufs b).pxEndPoint = some e) (bRelease : Bool) :
    lastState ((prvServeItem cfg q ⟨.eNetworkTxEvent, some b, none, bRelease⟩).run w) =
      lastState ((prvOutputFromController cfg (w.endPoints e).pxNetworkInterface b bRelease).run w) := by
  have hrun : (prvServeItem cfg q ⟨.eNetworkTxEvent, some b, none, bRelease⟩).run w =
      (prvOutputFromController cfg (w.endPoints e).pxNetworkInterface b bRelease >>= fun _ => pure ()).run w := by
    simp -implicitDefEqProofs [prvServeItem, vFreeAllNotNull, he, xTsnNetworkInterfaceOutput, hc]
  rw [hrun, EStateM.run_bind]
  cases (prvOutputFromController cfg (w.endPoints e).pxNetworkInterface b bRelease).run w <;> rfl

theorem run_prvServeItem_tx_null (he : (w.bufs b).pxEndPoint = none) (bRelease : Bool) :
    lastState ((prvServeItem cfg q ⟨.eNetworkTxEvent, some b, none, bRelease⟩).run w) = w := by
  simp -implicitDefEqProofs [prvServeItem, he]

/-- The controller's call keeps the ownership when the buffer has an endpoint, and no tags are inserted if it is to be
left as it was. -/
theorem owned_prvServeItem (hp : (w.bufs b).pucEthernetBuffer = .eth b 0) (hc : w.bCallingFromController = true)
    (bRelease : Bool) :
    Owned b bRelease w (lastState ((prvServeItem cfg q ⟨.eNetworkTxEvent, some b, none, bRelease⟩).run w)) ↔
      if bRelease then (w.bufs b).pxEndPoint.isSome = true else NoTagsOn cfg w (w.bufs b).pxEndPoint := by
  cases he : (w.bufs b).pxEndPoint with
  | none =>
      rw [run_prvServeItem_tx_null he]
      cases bRelease with
      | true => simp [Owned]
      | false => exact iff_of_true (owned_of_same rfl rfl rfl) trivial
  | some e =>
      rw [run_prvServeItem_tx hc he]
      cases bRelease with
      | true => exact iff_of_true (prvOutputFromController_released hp cfg _) rfl
      | false => exact prvOutputFromController_kept hp cfg _

end Serve

/-! ## Calls of other tasks -/

theorem pushed_untouched {w w' : World} {q : QueueHandle} {xItem : NetworkQueueItem} (h : Pushed w w' q xItem)
    (b : BufId) : Untouched b w w' := by
  rw [h.eq]
  exact ⟨rfl, rfl, rfl, rfl, rfl⟩

theorem Untouched.trans {b : BufId} {w w' w'' : World} (h : Untouched b w w') (h' : Untouched b w' w'') :
    Untouched b w w'' where
  bufs := h'.bufs.trans h.bufs
  mem := h'.mem.trans h.mem
  releases := h'.releases.trans h.releases
  endPoints := h'.endPoints.trans h.endPoints
  interfaces := h'.interfaces.trans h.interfaces

theorem Untouched.owned_iff {b : BufId} {w w' : World} (h : Untouched b w w') (bRelease : Bool) (w'' : World) :
    Owned b bRelease w w'' ↔ Owned b bRelease w' w'' := by
  simp only [Owned, frameOf, h.bufs, h.mem, h.releases]

theorem Untouched.noTagsOn_iff {b : BufId} {w w' : World} (h : Untouched b w w') (cfg : Config)
    (e : Option EndPointId) : NoTagsOn cfg w' e ↔ NoTagsOn cfg w e := by
  simp only [NoTagsOn, h.endPoints, h.interfaces]

end FreeRtosTsn.Packet
