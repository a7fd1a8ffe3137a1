import FreeRtosTsn.Packet.Lemmas.Tagging

/-!
# The tags of a sent frame

The frame that reaches the driver, and what its tags cost.
-/

namespace FreeRtosTsn.Packet

open Lib Kernel

variable {cfg : Config} {i : IfaceId} {b : BufId} {bRelease : Bool} {w : World}

/-- The driver is given the right frame. -/
theorem handsOver_frameTagged (hctl : w.bCallingFromController = true) (hp : (w.bufs b).pucEthernetBuffer = .eth b 0)
    (hlen : 14 ≤ (w.bufs b).xDataLength)
    (hres : ∀ n < uxInsertedTags cfg (w.interfaces i), w.env.pxResizeNetworkBufferWithDescriptor (w.calls + n) = true)
    (hmax : (w.bufs b).xDataLength + 4 * uxInsertedTags cfg (w.interfaces i) < 2 ^ 32) :
    ∃ w₁, HandsOver cfg i b bRelease w w₁ ∧ FrameTagged cfg (w.interfaces i) b w w₁ := by
  obtain ⟨w₁, hrun, -, hframe⟩ := prvInsertInterfaceTags_frame hp hres hlen
  exact ⟨w₁, run_output_inserted hctl hrun, hframe hmax⟩

/-- With a tag to insert, the buffer is overrun. -/
theorem HandsOver.overruns {w₁ : World} (h : HandsOver cfg i b bRelease w w₁)
    (hp : (w.bufs b).pucEthernetBuffer = .eth b 0) (hlen : 14 ≤ (w.bufs b).xDataLength)
    (hres : ∀ n < uxInsertedTags cfg (w.interfaces i), w.env.pxResizeNetworkBufferWithDescriptor (w.calls + n) = true)
    (hc : uxInsertedTags cfg (w.interfaces i) ≠ 0) : w₁.overruns ≠ w.overruns := by
  obtain ⟨w₁', hrun, hover, -⟩ := prvInsertInterfaceTags_frame hp hres hlen
  have hins := h.inserted
  rw [hrun] at hins
  cases hins
  intro heq
  exact absurd (hover hc) (by rw [heq]; exact Nat.lt_irrefl _)

/-- **Tags** are inserted within the buffer exactly when there are none. -/
theorem tags_inserted_iff (hctl : w.bCallingFromController = true) (hp : (w.bufs b).pucEthernetBuffer = .eth b 0)
    (hlen : 14 ≤ (w.bufs b).xDataLength)
    (hres : ∀ n < uxInsertedTags cfg (w.interfaces i), w.env.pxResizeNetworkBufferWithDescriptor (w.calls + n) = true) :
    (∃ w₁, HandsOver cfg i b bRelease w w₁ ∧ TagsInserted cfg (w.interfaces i) b w w₁) ↔
      uxInsertedTags cfg (w.interfaces i) = 0 := by
  constructor
  · rintro ⟨w₁, hhands, htags⟩
    by_contra hc
    exact hhands.overruns hp hlen hres hc htags.inBounds
  · intro hc
    have hrun := prvInsertInterfaceTags_none (w := w) (b := b) hc
    refine ⟨w, run_output_inserted hctl hrun, ⟨by omega, ?_⟩, rfl⟩
    rw [interfaceTags, hc]
    exact (taggedFrame_nil _ (by omega)).symm

/-- The controller sends a frame of 60 bytes on an interface with `n` tags. -/
def taggingWorld (n : Nat) : World :=
  { ((World.boot {}).setBuf 0 ⟨.eth 0 0, 60, some 0, none, 0, 0, .ipv4 0⟩).setCap 0 60 with
    bCallingFromController := true
    interfaces := fun _ => ⟨n, 5, 7⟩ }

theorem tags_inserted_none : ∃ w₁, HandsOver {} 0 0 true (taggingWorld 0) w₁ ∧
    TagsInserted {} ⟨0, 5, 7⟩ 0 (taggingWorld 0) w₁ :=
  (tags_inserted_iff rfl rfl (by decide) (fun _ _ => rfl)).mpr rfl

/-- One tag needs 64 bytes; 52 are moved to offset 16. -/
theorem tag_moved_beyond :
    (lastState ((prvInsertInterfaceTags {} ⟨1, 5, 7⟩ 0).run (taggingWorld 1))).overruns = [(0, 16, 52)] ∧
      ¬∃ w₁, HandsOver {} 0 0 true (taggingWorld 1) w₁ ∧ TagsInserted {} ⟨1, 5, 7⟩ 0 (taggingWorld 1) w₁ := by
  refine ⟨by decide, ?_⟩
  rintro ⟨w₁, hhands, htags⟩
  exact hhands.overruns rfl (by decide) (fun _ _ => rfl) (by decide) htags.inBounds

end FreeRtosTsn.Packet
