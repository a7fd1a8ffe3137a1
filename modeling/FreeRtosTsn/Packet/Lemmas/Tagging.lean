import FreeRtosTsn.Packet.Tagging
import FreeRtosTsn.Packet.Lemmas.Layout

/-!
# The insertion of tags

The bytes of the frame are right; four more than the buffer holds are moved for each tag.
-/

namespace FreeRtosTsn.Packet

open Lib Kernel

/-! ## One tag -/

section Insert

variable {w : World} {b : BufId}

theorem accessed_overruns_length (w : World) (b : BufId) (o n : Nat) :
    w.overruns.length ≤ (w.accessed b o n).overruns.length := by
  rw [World.accessed_overruns]
  split
  · exact Nat.le_refl _
  · simp

theorem accessed_overruns_length_lt {o n : Nat} (h : w.cap b < o + n) :
    w.overruns.length < (w.accessed b o n).overruns.length := by
  rw [World.accessed_overruns, if_neg (Nat.not_le.mpr h)]
  simp

theorem written_overruns_length (w : World) (b : BufId) (o n : Nat) (m : Mem) :
    w.overruns.length ≤ ((w.accessed b o n).setMem b m).overruns.length := by
  rw [World.setMem_overruns]
  exact accessed_overruns_length w b o n

/-- The bytes behind the type are moved by four, with the length that counts the tag already. -/
theorem prvInsertVLANTag_overruns (hp : (w.bufs b).pucEthernetBuffer = .eth b 0)
    (h : w.env.pxResizeNetworkBufferWithDescriptor w.calls = true) (usTCI usTPID : UInt16) :
    ∃ w', (prvInsertVLANTag b usTCI usTPID).run w = .ok (some b) w' ∧ w'.env = w.env ∧ w'.calls = w.calls + 1 ∧
      w'.bufs b = { w.bufs b with xDataLength := wrap32 ((w.bufs b).xDataLength + vlanTagSize) } ∧
      w'.mem b = tagged (w.mem b) (wrap32 ((w.bufs b).xDataLength + vlanTagSize)) usTCI usTPID ∧
      w.overruns.length < w'.overruns.length := by
  generalize hs : wrap32 ((w.bufs b).xDataLength + vlanTagSize) = s
  have hlt : s < 2 ^ 32 := hs ▸ wrap32_lt _
  let w₁ := (w.tick.setCap b s).setBuf b { w.bufs b with xDataLength := s }
  let w₂ := w₁.accessed b ethFrameType (sub32 s ethFrameType)
  let w₃ := w₂.accessed b (ethFrameType + vlanTagSize) (sub32 s ethFrameType)
  let w₄ := w₃.setMem b ((w.mem b).move (ethFrameType + vlanTagSize) ethFrameType (sub32 s ethFrameType))
  let w₅ := (w₄.accessed b ethFrameType 2).setMem b ((w₄.mem b).write ethFrameType (bytes16 (swap16 usTPID)))
  let w₆ := (w₅.accessed b (ethFrameType + 2) 2).setMem b ((w₅.mem b).write (ethFrameType + 2) (bytes16 (swap16 usTCI)))
  have hrun : (prvInsertVLANTag b usTCI usTPID).run w = .ok (some b) w₆ := by
    simp -implicitDefEqProofs [prvInsertVLANTag, pxResizeNetworkBufferWithDescriptor, nextCall, h, hp, hs, w₁, w₂, w₃,
      w₄, w₅, w₆]
  have hover : w₂.cap b < ethFrameType + vlanTagSize + sub32 s ethFrameType := by
    have hcap : w₂.cap b = s := Function.update_self (β := fun _ => Nat) b s w.cap
    rw [hcap]
    simp only [sub32, wrap32, ethFrameType, vlanTagSize]
    omega
  refine ⟨w₆, hrun, rfl, rfl, ?_, ?_, ?_⟩
  · exact Function.update_self b _ _
  · simp [w₆, w₅, w₄, tagged]
  · have h₂ : w.overruns.length ≤ w₂.overruns.length := accessed_overruns_length w₁ b ethFrameType (sub32 s ethFrameType)
    have h₃ : w₂.overruns.length < w₃.overruns.length :=
      accessed_overruns_length_lt (w := w₂) (o := ethFrameType + vlanTagSize) hover
    have h₄ : w₄.overruns = w₃.overruns := World.setMem_overruns w₃ b _
    have h₅ : w₄.overruns.length ≤ w₅.overruns.length := written_overruns_length w₄ b _ _ _
    have h₆ : w₅.overruns.length ≤ w₆.overruns.length := written_overruns_length w₅ b _ _ _
    rw [h₄] at h₅
    exact ((h₂.trans_lt h₃).trans_le h₅).trans_le h₆

end Insert

/-! ## The frame -/

/-- The frame after one tag was inserted. -/
theorem tagged_frame (m : Mem) {n : Nat} (h : 14 ≤ n) (hmax : n + 4 < 2 ^ 32) (usTCI usTPID : UInt16) :
    (tagged m (n + 4) usTCI usTPID).read 0 (n + 4) = taggedFrame m n [⟨usTPID.toNat, usTCI.toNat⟩] := by
  have hsub : sub32 (n + 4) ethFrameType = n - 8 := sub32_of_le (by simp only [ethFrameType]; omega) hmax
  have haddresses : (tagged m (n + 4) usTCI usTPID).read 0 12 = m.read 0 12 := by
    apply Mem.read_congr
    intro i hi
    rw [tagged, Mem.write_of_lt (by simp only [ethFrameType]; omega), Mem.write_of_lt (by simp only [ethFrameType]; omega),
      Mem.move, if_neg (by simp only [ethFrameType, vlanTagSize]; omega)]
  have htpid : (tagged m (n + 4) usTCI usTPID).read 12 2 = Ethernet.numberBytes usTPID.toNat := by
    rw [← swap16_swap16 usTPID, ← bytes16_eq_numberBytes, swap16_swap16]
    have hlow : (tagged m (n + 4) usTCI usTPID).read 12 2 =
        ((m.move (ethFrameType + vlanTagSize) ethFrameType (sub32 (n + 4) ethFrameType)).write 12
          (bytes16 (swap16 usTPID))).read 12 2 :=
      Mem.read_congr fun i hi => Mem.write_of_lt (by simp only [ethFrameType]; omega)
    exact hlow.trans (Mem.read_write _ 12 (bytes16 (swap16 usTPID)))
  have htci : (tagged m (n + 4) usTCI usTPID).read 14 2 = Ethernet.numberBytes usTCI.toNat := by
    rw [← swap16_swap16 usTCI, ← bytes16_eq_numberBytes, swap16_swap16]
    exact Mem.read_write _ 14 (bytes16 (swap16 usTCI))
  have hrest : (tagged m (n + 4) usTCI usTPID).read 16 (n - 12) = m.read 12 (n - 12) := by
    apply Mem.read_congr
    intro i hi
    rw [tagged, Mem.write_of_ge (by simp only [ethFrameType, bytes16_length]; omega),
      Mem.write_of_ge (by simp only [ethFrameType, bytes16_length]; omega), Mem.move, hsub,
      if_pos (by simp only [ethFrameType, vlanTagSize]; omega)]
    exact congrArg m (by simp only [ethFrameType, vlanTagSize]; omega)
  have hsplit : ∀ m' : Mem, m'.read 0 (n + 4) = m'.read 0 12 ++ (m'.read 12 2 ++ (m'.read 14 2 ++ m'.read 16 (n - 12))) := by
    intro m'
    rw [show n + 4 = 12 + (2 + (2 + (n - 12))) by omega, Mem.read_append, Mem.read_append, Mem.read_append]
  rw [hsplit, haddresses, htpid, htci, hrest, taggedFrame]
  simp [Ethernet.Tag.bytes]

theorem taggedFrame_nil (m : Mem) {n : Nat} (h : 12 ≤ n) : taggedFrame m n [] = m.read 0 n := by
  rw [taggedFrame, List.flatMap_nil, List.append_nil, ← Nat.zero_add 12, ← Mem.read_append]
  congr 1
  omega

/-- A tag is inserted in front of the tags that the frame has. -/
theorem tagged_taggedFrame {m m' : Mem} {n n' : Nat} {tags : List Ethernet.Tag} (h : 12 ≤ n') 
    (hm : m'.read 0 n' = taggedFrame m n tags) (t : Ethernet.Tag) :
    taggedFrame m' n' [t] = taggedFrame m n (t :: tags) := by
  rw [← taggedFrame_nil m' h, taggedFrame, taggedFrame, List.append_assoc, List.append_assoc] at hm
  obtain ⟨haddresses, hrest⟩ := List.append_inj hm (by simp)
  rw [List.flatMap_nil, List.nil_append] at hrest
  rw [taggedFrame, taggedFrame, haddresses, hrest]
  simp

/-! ## The tags of an interface -/

section Interface

variable {cfg : Config} {c : NetworkInterfaceConfig} {w : World} {b : BufId}

/-- One tag more, and an access beyond the buffer. -/
structure TagAdded (b : BufId) (t : Ethernet.Tag) (w w' : World) : Prop where
  env : w'.env = w.env
  calls : w'.calls = w.calls + 1
  pucEthernetBuffer : (w'.bufs b).pucEthernetBuffer = (w.bufs b).pucEthernetBuffer
  overruns : w.overruns.length < w'.overruns.length
  frame : 14 ≤ (w.bufs b).xDataLength → (w.bufs b).xDataLength + 4 < 2 ^ 32 →
    (w'.bufs b).xDataLength = (w.bufs b).xDataLength + 4 ∧
      frameOf w' b = taggedFrame (w.mem b) (w.bufs b).xDataLength [t]

theorem prvInsertVLANTag_added (hp : (w.bufs b).pucEthernetBuffer = .eth b 0)
    (h : w.env.pxResizeNetworkBufferWithDescriptor w.calls = true) (usTCI usTPID : UInt16) :
    ∃ w', (prvInsertVLANTag b usTCI usTPID).run w = .ok (some b) w' ∧
      TagAdded b ⟨usTPID.toNat, usTCI.toNat⟩ w w' := by
  obtain ⟨w', hrun, henv, hcalls, hbuf, hmem, hover⟩ := prvInsertVLANTag_overruns hp h usTCI usTPID
  refine ⟨w', hrun, henv, hcalls, by rw [hbuf], hover, ?_⟩
  intro hlen hmax
  have hsize : wrap32 ((w.bufs b).xDataLength + vlanTagSize) = (w.bufs b).xDataLength + 4 := wrap32_of_lt hmax
  rw [frameOf, hbuf, hmem, hsize]
  exact ⟨rfl, tagged_frame _ hlen hmax usTCI usTPID⟩

theorem prvInsertInterfaceTags_frame (hp : (w.bufs b).pucEthernetBuffer = .eth b 0)
    (hres : ∀ n < uxInsertedTags cfg c, w.env.pxResizeNetworkBufferWithDescriptor (w.calls + n) = true)
    (hlen : 14 ≤ (w.bufs b).xDataLength) :
    ∃ w₁, (prvInsertInterfaceTags cfg c b).run w = .ok true w₁ ∧
      (uxInsertedTags cfg c ≠ 0 → w.overruns.length < w₁.overruns.length) ∧
      ((w.bufs b).xDataLength + 4 * uxInsertedTags cfg c < 2 ^ 32 → FrameTagged cfg c b w w₁) := by
  by_cases hc : uxInsertedTags cfg c = 0
  · refine ⟨w, prvInsertInterfaceTags_none hc, fun hn => absurd hc hn, fun _ => ⟨by omega, ?_⟩⟩
    rw [interfaceTags, hc]
    exact (taggedFrame_nil _ (by omega)).symm
  · have hk := uxInsertedTags_one_or_two hc
    obtain ⟨w₁, h₁, hadd₁⟩ := prvInsertVLANTag_added hp (hres 0 (by omega)) c.usVLANTag vlantagTpidDefault
    rcases hk with hk | hk
    · refine ⟨w₁, prvInsertInterfaceTags_one hk h₁, fun _ => hadd₁.overruns, ?_⟩
      intro hmax
      obtain ⟨hlen₁, hframe₁⟩ := hadd₁.frame hlen (by omega)
      refine ⟨by omega, ?_⟩
      rw [hframe₁, interfaceTags, hk]
      rfl
    · obtain ⟨w₂, h₂, hadd₂⟩ := prvInsertVLANTag_added (w := w₁) (hadd₁.pucEthernetBuffer.trans hp)
        (by rw [hadd₁.env, hadd₁.calls]; exact hres 1 (by omega)) c.usServiceVLANTag vlantagTpidDoubleTag
      refine ⟨w₂, prvInsertInterfaceTags_two hk h₁ h₂, fun _ => hadd₁.overruns.trans hadd₂.overruns, ?_⟩
      intro hmax
      obtain ⟨hlen₁, hframe₁⟩ := hadd₁.frame hlen (by omega)
      obtain ⟨hlen₂, hframe₂⟩ := hadd₂.frame (by omega) (by omega)
      refine ⟨by omega, ?_⟩
      rw [hframe₂, interfaceTags, hk]
      exact tagged_taggedFrame (by omega) hframe₁ _

/-- The controller inserts the tags, then passes the frame on. -/
theorem run_output_inserted {i : IfaceId} {bRelease : Bool} {w₁ : World} (hctl : w.bCallingFromController = true)
    (h : (prvInsertInterfaceTags cfg (w.interfaces i) b).run w = .ok true w₁) : HandsOver cfg i b bRelease w w₁ := by
  refine ⟨h, ?_⟩
  rw [xTsnNetworkInterfaceOutput, run_bind_ok (EStateM.run_get w), if_pos hctl, prvOutputFromController,
    run_bind_ok (EStateM.run_get w), run_bind_ok h]
  rfl

end Interface

end FreeRtosTsn.Packet
