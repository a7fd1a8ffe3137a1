import FreeRtosTsn.Packet.Bounds

/-!
# What the wrapper reads in a frame

The parser touches one buffer only. Its result is a function of the bytes that are left when the tags are gone.
-/

namespace FreeRtosTsn.Packet

open Lib Kernel

section Run

variable {w : World} {b : BufId}

theorem uxPrefixOf_ge (m : Mem) : ipSizeOfEthHeader ≤ uxPrefixOf m := by
  unfold uxPrefixOf
  split
  · exact Nat.le_add_right _ _
  · split
    · exact Nat.le_add_right _ _
    · exact Nat.le_refl _

theorem run_prvParseNetwork :
    ∃ w', (prvParseNetwork (.eth b 0) ((w.mem b).load16 ethFrameType)).run w =
      .ok (protocolOf (w.mem b), destinationOf (w.mem b), uxPrefixOf (w.mem b)) w' ∧ Reads w w' ∧
      (w'.overruns = [] ↔ w.overruns = [] ∧
        (ipSizeOfEthHeader < uxPrefixOf (w.mem b) → uxPrefixOf (w.mem b) ≤ w.cap b)) := by
  unfold protocolOf destinationOf uxPrefixOf
  by_cases h4 : (w.mem b).load16 ethFrameType = ipIPv4FrameType
  · simp -implicitDefEqProofs only [prvParseNetwork, h4, if_true, EStateM.run_bind, run_load8, run_load32, EStateM.run_pure]
    refine ⟨_, rfl, ⟨rfl⟩, ?_⟩
    simp only [accessed_overruns_eq_nil, World.accessed_cap, Nat.zero_add, and_assoc, ipSizeOfEthHeader, ipSizeOfIPv4Header]
    exact and_congr_right fun _ => by omega
  · by_cases h6 : (w.mem b).load16 ethFrameType = ipIPv6FrameType
    · simp -implicitDefEqProofs only [prvParseNetwork, h6, show ipIPv6FrameType ≠ ipIPv4FrameType by decide, Ptr.add, if_true,
        if_false, EStateM.run_bind, run_load8, run_readBytes, EStateM.run_pure]
      refine ⟨_, rfl, ⟨rfl⟩, ?_⟩
      simp only [accessed_overruns_eq_nil, World.accessed_cap, Nat.zero_add, and_assoc, ipSizeOfEthHeader, ipSizeOfIPv6Header]
      exact and_congr_right fun _ => by omega
    · exact ⟨w, by simp -implicitDefEqProofs [prvParseNetwork, h4, h6], ⟨rfl⟩, by simp [h4, h6]⟩

theorem run_prvParsePorts :
    ∃ w', (prvParsePorts (.eth b 0) (protocolOf (w.mem b)) (uxPrefixOf (w.mem b))).run w =
      .ok (portsOf (w.mem b)) w' ∧ Reads w w' ∧
      (w'.overruns = [] ↔ w.overruns = [] ∧ (hasPorts (w.mem b) = true → uxPrefixOf (w.mem b) + 4 ≤ w.cap b)) := by
  unfold portsOf
  by_cases h : protocolOf (w.mem b) = ipProtocolUdp ∨ protocolOf (w.mem b) = ipProtocolTcp
  · have hp : hasPorts (w.mem b) = true := by simpa [hasPorts] using h
    simp -implicitDefEqProofs only [prvParsePorts, h, hp, if_true, EStateM.run_bind, run_load16, EStateM.run_pure,
      World.accessed_mem, Nat.zero_add]
    refine ⟨_, rfl, ⟨rfl⟩, ?_⟩
    simp only [accessed_overruns_eq_nil, World.accessed_cap, forall_true_left, and_assoc]
    exact and_congr_right fun _ => by omega
  · have hp : hasPorts (w.mem b) = false := by simpa [hasPorts] using h
    exact ⟨w, by simp -implicitDefEqProofs [prvParsePorts, h, hp], ⟨rfl⟩, by simp [hp]⟩

/-- What is stored in the descriptor, and what is reported, is read in the stripped frame. -/
theorem run_prvParseStripped :
    ∃ w', (prvParseStripped b (.eth b 0)).run w = .ok (parsedOf (w.mem b))
        (w'.setBuf b { w.bufs b with usBoundPort := (portsOf (w.mem b)).1, usPort := (portsOf (w.mem b)).2 }) ∧ Reads w w' ∧
      (w'.overruns = [] ↔ w.overruns = [] ∧ uxHeaderBytes (w.mem b) ≤ w.cap b) := by
  obtain ⟨w₂, h₂, hr₂, ho₂⟩ := run_prvParseNetwork (w := w.accessed b ethFrameType 2) (b := b)
  obtain ⟨w₃, h₃, hr₃, ho₃⟩ := run_prvParsePorts (w := w₂) (b := b)
  have hcap : w₂.cap = w.cap := by rw [hr₂.eq, World.accessed_cap]
  have hr₁ : Reads w (w.accessed b ethFrameType 2) := ⟨rfl⟩
  have hr : Reads w w₃ := trans_of Reads (trans_of Reads hr₁ hr₂) hr₃
  rw [World.accessed_mem] at h₂
  rw [hr₂.mem, World.accessed_mem] at h₃ ho₃
  refine ⟨w₃, ?_, hr, ?_⟩
  · rw [prvParseStripped, run_bind_ok (run_load16 w b 0 ethFrameType), Nat.zero_add, run_bind_ok h₂]
    dsimp only
    rw [run_bind_ok h₃, run_bind_ok (run_modifyBuf _ _ _), hr.bufs]
    rfl
  · rw [ho₃, ho₂, accessed_overruns_eq_nil, World.accessed_mem, World.accessed_cap, hcap, and_assoc, and_assoc, uxHeaderBytes]
    refine and_congr_right fun _ => ?_
    have hprefix := uxPrefixOf_ge (w.mem b)
    simp only [ipSizeOfEthHeader, ethFrameType] at hprefix ⊢
    split
    · rename_i hports
      simp only [hports, forall_true_left]
      omega
    · rename_i hports
      simp only [hports, Bool.false_eq_true, false_imp_iff, and_true]
      omega

theorem run_prvParseFrame (hp : (w.bufs b).pucEthernetBuffer = .eth b 0) :
    ∃ t w₁ w', (prvStripVLANTag b).run w = .ok t w₁ ∧
      TagsRemoved b (uxTagsIn (w.mem b) (w.bufs b).xDataLength) w w₁ ∧
      (prvParseFrame b).run w = .ok (parsedOf (w₁.mem b)) w' ∧ FrameStep b w w' ∧ w'.mem = w₁.mem ∧
      w'.bufs b = { w₁.bufs b with usBoundPort := (portsOf (w₁.mem b)).1, usPort := (portsOf (w₁.mem b)).2 } := by
  obtain ⟨t, w₁, hstrip, -, hf₁⟩ := run_prvStripVLANTag hp
  obtain ⟨w₂, h₂, hr₂, -⟩ := run_prvParseStripped (w := w₁) (b := b)
  have hf₂ : FrameStep b w w₂ := trans_of (FrameStep b) hf₁.toFrameStep (hr₂.frameStep b)
  refine ⟨t, w₁, _, hstrip, hf₁, ?_, hf₂.setBuf (d := { w₁.bufs b with
    usBoundPort := (portsOf (w₁.mem b)).1, usPort := (portsOf (w₁.mem b)).2 }) ?_ ?_ ?_, hr₂.mem, ?_⟩
  · rw [prvParseFrame, run_bind_ok (run_loadBuf _ _), run_bind_ok hstrip, hp]
    exact h₂
  · rw [hr₂.bufs]
  · rw [hr₂.bufs]
  · rw [hr₂.bufs]
  · rw [World.setBuf_bufs, Function.update_self]

theorem run_prvParseFrame_untagged (hp : (w.bufs b).pucEthernetBuffer = .eth b 0)
    (hlen : ipSizeOfEthHeader ≤ (w.bufs b).xDataLength)
    (hty : uxTagsOfType (swap16 ((w.mem b).load16 ethFrameType)) = 0) :
    ∃ w', (prvParseFrame b).run w = .ok (parsedOf (w.mem b)) w' ∧ FrameStep b w w' ∧ w'.mem = w.mem ∧
      w'.bufs b = { w.bufs b with usBoundPort := (portsOf (w.mem b)).1, usPort := (portsOf (w.mem b)).2 } := by
  obtain ⟨t, w₁, w', hstrip, -, hrun, hf, hm, hb⟩ := run_prvParseFrame hp
  rw [prvStripVLANTag_untagged hp hlen hty] at hstrip
  cases hstrip
  exact ⟨w', hrun, hf, hm, hb⟩

end Run

end FreeRtosTsn.Packet
