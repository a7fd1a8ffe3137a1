import FreeRtosTsn.Resources.Lemmas.Delivery
import FreeRtosTsn.Packet.Lemmas.Output

/-!
# What a reception allocates

The block of the item is never freed, and neither is a message whose item was not built or not queued.
-/

namespace FreeRtosTsn.Resources

open Lib Kernel Packet Scheduler

variable {cfg : Config} {w w₁ w₂ w' : World} {b : BufId} {f : ParsedFrame} {t : Nat} {r : Bool}

/-! ## Balance -/

theorem NewBlock.not_balanced_fail {x : Addr} (h : NewBlock w w' x) : ¬Balanced b false w w' := by
  rintro ⟨hnone, -⟩
  exact hnone x h

/-- Neither the message of an item nor its parts are the block of an item. -/
theorem not_ofItem {xItem xItem' : NetworkQueueItem} {x : Addr} (h : MsgHeap w.heap) (hx : w.heap x = some (.item xItem')) :
    ¬OfItem w xItem x := by
  rintro ⟨a, m, -, hm, hxa | ⟨p, hp⟩⟩
  · rw [hxa, hm] at hx
    cases hx
  · obtain ⟨c, hc, hpart⟩ := h.live hm hp
    rw [hx] at hc
    cases hc
    cases p <;> cases hpart

/-! ## With an item -/

theorem newBlock_of_fresh {x : Addr} (h : HeapOk w) (hx : w.calls ≤ x) (hx' : w'.heap x ≠ none) : NewBlock w w' x :=
  ⟨h.fresh x hx, hx'⟩

/-- Once the block of the item is there, it stays, whether a queue takes the item or not. -/
theorem not_balanced_item {xItem : NetworkQueueItem} (h : HeapOk w) (h₂ : HeapOk w₂) (hcalls : w.calls ≤ w₂.calls)
    (hm : w₂.env.pvPortMalloc w₂.calls = true)
    (hrun : (exec cfg (xNetworkQueueInsertPacketByFilter cfg xItem t)).run (madeItem w₂ xItem) = .ok r w') :
    ¬Balanced b r w w' := by
  have hblock : (madeItem w₂ xItem).heap w₂.calls = some (.item xItem) := by simp [madeItem, hm]
  have hok : HeapOk (madeItem w₂ xItem) := (Extends.item h₂ xItem).heapOk
  cases r with
  | false =>
      have hsame : w' = madeItem w₂ xItem := by
        by_cases ha : Accepts cfg (madeItem w₂ xItem) xItem
        · obtain ⟨w₃, q, hacc, -⟩ := exec_insert_accepted ha t
          rw [hrun] at hacc
          cases hacc
        · rw [exec_insert_refused ha t] at hrun
          cases hrun
          rfl
      have hnew : NewBlock w w' w₂.calls := by
        apply newBlock_of_fresh h hcalls
        rw [hsame, hblock]
        exact Option.some_ne_none _
      exact hnew.not_balanced_fail
  | true =>
      obtain ⟨q, hpush⟩ := exec_insert_inv hrun
      have hheap : w'.heap = (madeItem w₂ xItem).heap := by rw [hpush.eq]
      have hblock' : w'.heap w₂.calls = some (.item xItem) := by rw [hheap, hblock]
      rintro ⟨q', xItem', -, -, hall⟩
      have hnew : NewBlock w w' w₂.calls := by
        apply newBlock_of_fresh h hcalls
        rw [hblock']
        exact Option.some_ne_none _
      have hmsg : MsgHeap w'.heap := by
        rw [hheap]
        exact hok.toMsgHeap
      exact not_ofItem hmsg hblock' (hall _ hnew)

/-! ## Without an item -/

theorem balanced_of_frame (h : FrameStep b w w₁) : Balanced b false w w₁.tick := by
  refine ⟨?_, ?_, ?_⟩
  · rintro x ⟨hnone, hsome⟩
    apply hsome
    rw [World.tick_heap, h.eq]
    exact hnone
  · rw [World.tick_queues, h.eq]
  · intro p
    have htick : BufPlace.count w₁.tick b p = BufPlace.count w₁ b p := by cases p <;> rfl
    rw [htick, bufCount_frame h b p]

/-! ## The whole reception -/

theorem run_prvParseFrame_port (hp : (w.bufs b).pucEthernetBuffer = .eth b 0) :
    ∃ f w₁, (prvParseFrame b).run w = .ok f w₁ ∧ FrameStep b w w₁ ∧ f.usDestinationPort = receivedPort w b := by
  obtain ⟨-, w₀, w₁, -, hremoved, hparse, hfs, -, -⟩ := run_prvParseFrame hp
  refine ⟨_, w₁, hparse, hfs, ?_⟩
  rw [receivedPort, strippedMem, ← hremoved.mem]
  rfl

/-- A frame for a port that no socket is bound to is given back to the driver. -/
theorem balanced_unbound (h : FrameStep b w w₁) : Balanced b false w w₁ := by
  refine ⟨?_, by rw [h.eq], fun p => bufCount_frame h b p⟩
  rintro x ⟨hnone, hsome⟩
  apply hsome
  rw [h.eq]
  exact hnone

/-- What happens once the item, with or without a message, is to be made in `w₂`. -/
theorem balanced_item {pxMsgh : Option Addr} (h : HeapOk w) (h₂ : HeapOk w₂) (hcalls : w.calls ≤ w₂.calls)
    (hparse : (prvParseFrame b).run w = .ok f w₁) (hfor : (prvMsghFor b f).run w₁ = .ok (some pxMsgh) w₂)
    (hrun : (xSendEventStructToTsnController cfg .eNetworkRxEvent b t).run w = .ok r w') :
    if w₂.env.pvPortMalloc w₂.calls then ¬Balanced b r w w' else r = false ∧ w' = w₂.tick := by
  rw [xSendEventStructToTsnController, if_pos rfl, run_bind_ok (prvHandleReceive_item hparse hfor)] at hrun
  cases hm : w₂.env.pvPortMalloc w₂.calls with
  | true =>
      rw [hm] at hrun
      exact not_balanced_item h h₂ hcalls hm hrun
  | false =>
      rw [hm] at hrun
      cases hrun
      exact ⟨rfl, by simp [madeItem, hm]⟩

theorem balanced_plain (h : HeapOk w) (hparse : (prvParseFrame b).run w = .ok f w₁) (hfs : FrameStep b w w₁)
    (hport : f.usDestinationPort = 0 ∨ prvLookup f.usDestinationPort w.xTSNBoundUDPSocketList = none ∧
      prvLookup f.usDestinationPort w.xBoundUDPSocketsList ≠ none)
    (hrun : (xSendEventStructToTsnController cfg .eNetworkRxEvent b t).run w = .ok r w') :
    Balanced b r w w' ↔ w.env.pvPortMalloc w.calls = false := by
  have hcalls : w₁.calls = w.calls := by rw [hfs.eq]
  have henv : w₁.env = w.env := by rw [hfs.eq]
  have hfor : (prvMsghFor b f).run w₁ = .ok (some none) w₁ := by
    apply prvMsghFor_plain
    rw [hfs.eq]
    exact hport
  have hitem := balanced_item h (hfs.heapOk h) (Nat.le_of_eq hcalls.symm) hparse hfor hrun
  rw [henv, hcalls] at hitem
  cases hm : w.env.pvPortMalloc w.calls with
  | true =>
      rw [hm, if_pos rfl] at hitem
      exact iff_of_false hitem (by simp)
  | false =>
      rw [hm, if_neg Bool.false_ne_true] at hitem
      obtain ⟨rfl, rfl⟩ := hitem
      exact iff_of_true (balanced_of_frame hfs) rfl

/-- A TSN socket is bound to the port: the message stays in any case. -/
theorem not_balanced_tsn {k : Addr} (h : HeapOk w) (htb : TimebaseOk w) (hparse : (prvParseFrame b).run w = .ok f w₁)
    (hfs : FrameStep b w w₁) (h0 : f.usDestinationPort ≠ 0)
    (hl : prvLookup f.usDestinationPort w.xTSNBoundUDPSocketList = some k)
    (hrun : (xSendEventStructToTsnController cfg .eNetworkRxEvent b t).run w = .ok r w') : ¬Balanced b r w w' := by
  have hl₁ : prvLookup f.usDestinationPort w₁.xTSNBoundUDPSocketList = some k := by
    rw [hfs.eq]
    exact hl
  have hcalls : w₁.calls = w.calls := by rw [hfs.eq]
  -- The call ended, so the socket is live and there was memory for the message.
  have hstart := hrun
  rw [xSendEventStructToTsnController, if_pos rfl] at hstart
  obtain ⟨xItem, w₃, hrec, -⟩ := run_bind_inv hstart
  have hsocket : ∃ s, w₁.heap k = some (.tsnSocket s) := by
    have hfind := hrec
    rw [prvHandleReceive, run_bind_ok hparse] at hfind
    obtain ⟨y, w₄, hfor, -⟩ := run_bind_inv hfind
    rw [prvMsghFor, if_neg h0] at hfor
    obtain ⟨z, w₅, hlook, -⟩ := run_bind_inv hfor
    rw [vSocketFromPort, run_bind_ok (EStateM.run_get w₁), hl₁] at hlook
    obtain ⟨s, w₆, hload, -⟩ := run_bind_inv hlook
    exact ⟨s, (loadTsnSocket_inv hload).2⟩
  obtain ⟨s, hs⟩ := hsocket
  have hmem : w₁.env.pvPortMalloc w₁.calls = true := by
    by_contra hno
    rw [prvHandleReceive_tsn_null hparse h0 hl₁ hs (by simpa using hno)] at hrec
    cases hrec
  obtain ⟨w₂, m, hfor, hB, -⟩ := prvMsghFor_tsn (hfs.heapOk h) (hfs.timebaseOk htb) h0 hl₁ hs hmem b
  have hle : w.calls ≤ w₂.calls := Nat.le_trans (Nat.le_of_eq hcalls.symm) hB.step.calls_le
  have hitem := balanced_item h hB.heapOk hle hparse hfor hrun
  split at hitem
  · exact hitem
  · obtain ⟨rfl, rfl⟩ := hitem
    have hnew : NewBlock w w₂.tick w₁.calls := by
      apply newBlock_of_fresh h (Nat.le_of_eq hcalls.symm)
      rw [World.tick_heap, hB.msghdr]
      exact Option.some_ne_none _
    exact hnew.not_balanced_fail

end FreeRtosTsn.Resources
