import FreeRtosTsn.Packet.Lemmas.Heap

/-!
# Inserting and removing tags

The memory of a frame after a tag was inserted, and what the removal finds in it.
-/

namespace FreeRtosTsn.Packet

open Lib Kernel

/-! ## Code that works on one buffer -/

/-- Only the frame in `b`, its length and its ports changed. -/
structure FrameStep (b : BufId) (w w' : World) : Prop where
  eq : w' = { w with bufs := w'.bufs, mem := w'.mem, overruns := w'.overruns }
  bufs : ∀ c, c ≠ b → w'.bufs c = w.bufs c
  pucEthernetBuffer : (w'.bufs b).pucEthernetBuffer = (w.bufs b).pucEthernetBuffer
  pxInterface : (w'.bufs b).pxInterface = (w.bufs b).pxInterface
  pxEndPoint : (w'.bufs b).pxEndPoint = (w.bufs b).pxEndPoint

instance (b : BufId) : IsPreorder World (FrameStep b) where
  refl _ := ⟨rfl, fun _ _ => rfl, rfl, rfl, rfl⟩
  trans w w' w'' h h' := by
    refine ⟨?_, fun c hc => (h'.bufs c hc).trans (h.bufs c hc), h'.pucEthernetBuffer.trans h.pucEthernetBuffer,
      h'.pxInterface.trans h.pxInterface, h'.pxEndPoint.trans h.pxEndPoint⟩
    have := h'.eq
    rw [h.eq] at this
    exact this

namespace FrameStep

variable {b : BufId} {w w' : World} (h : FrameStep b w w')
include h

theorem accessed (c : BufId) (o n : Nat) : FrameStep b w (w'.accessed c o n) := by
  have hstep : FrameStep b w' (w'.accessed c o n) := ⟨rfl, fun _ _ => rfl, rfl, rfl, rfl⟩
  exact trans_of (FrameStep b) h hstep

theorem setMem (m : Mem) : FrameStep b w (w'.setMem b m) := by
  have hstep : FrameStep b w' (w'.setMem b m) := ⟨rfl, fun _ _ => rfl, rfl, rfl, rfl⟩
  exact trans_of (FrameStep b) h hstep

theorem setBuf {d : NetworkBufferDescriptor} (hp : d.pucEthernetBuffer = (w'.bufs b).pucEthernetBuffer)
    (hi : d.pxInterface = (w'.bufs b).pxInterface) (he : d.pxEndPoint = (w'.bufs b).pxEndPoint) :
    FrameStep b w (w'.setBuf b d) := by
  have hstep : FrameStep b w' (w'.setBuf b d) :=
    ⟨rfl, fun _ hc => Function.update_of_ne hc _ _, by simpa using hp, by simpa using hi, by simpa using he⟩
  exact trans_of (FrameStep b) h hstep

end FrameStep

/-- The state after reads of Ethernet buffers. -/
structure Reads (w w' : World) : Prop where
  eq : w' = { w with overruns := w'.overruns }

instance : IsPreorder World Reads where
  refl _ := ⟨rfl⟩
  trans w w' w'' h h' := by
    have := h'.eq
    rw [h.eq] at this
    exact ⟨this⟩

theorem Reads.bufs {w w' : World} (h : Reads w w') : w'.bufs = w.bufs := by rw [h.eq]

theorem Reads.mem {w w' : World} (h : Reads w w') : w'.mem = w.mem := by rw [h.eq]

theorem Reads.heap {w w' : World} (h : Reads w w') : w'.heap = w.heap := by rw [h.eq]

theorem Reads.frameStep {w w' : World} (h : Reads w w') (b : BufId) : FrameStep b w w' := by
  rw [h.eq]
  exact ⟨rfl, fun _ _ => rfl, rfl, rfl, rfl⟩

theorem accessed_overruns_eq_nil {w : World} {b : BufId} (off n : Nat) :
    (w.accessed b off n).overruns = [] ↔ w.overruns = [] ∧ off + n ≤ w.cap b := by
  rw [World.accessed_overruns]
  by_cases h : off + n ≤ w.cap b
  · simp [h]
  · simp [h]

/-! ## Inserting a tag -/

/-- The bytes of a buffer after `prvInsertVLANTag` made its length `uxLength`. -/
def tagged (m : Mem) (uxLength : Nat) (usTCI usTPID : UInt16) : Mem :=
  ((m.move (ethFrameType + vlanTagSize) ethFrameType (sub32 uxLength ethFrameType)).write ethFrameType
    (bytes16 (swap16 usTPID))).write (ethFrameType + 2) (bytes16 (swap16 usTCI))

theorem tagged_tpid (m : Mem) (n : Nat) (usTCI usTPID : UInt16) :
    (tagged m n usTCI usTPID).load16 ethFrameType = swap16 usTPID := by
  have h : (tagged m n usTCI usTPID).load16 ethFrameType =
      ((m.move (ethFrameType + vlanTagSize) ethFrameType (sub32 n ethFrameType)).store16 ethFrameType
        (swap16 usTPID)).load16 ethFrameType :=
    Mem.load16_congr fun i hi => Mem.write_of_lt (by omega)
  rw [h, Mem.load16_store16]

section Insert

variable {w : World} {b : BufId}

theorem prvInsertVLANTag_ok (hp : (w.bufs b).pucEthernetBuffer = .eth b 0)
    (h : w.env.pxResizeNetworkBufferWithDescriptor w.calls = true) (usTCI usTPID : UInt16) :
    ∃ w', (prvInsertVLANTag b usTCI usTPID).run w = .ok (some b) w' ∧ w'.env = w.env ∧
      w'.released = w.released ∧
      w'.bufs b = { w.bufs b with xDataLength := wrap32 ((w.bufs b).xDataLength + vlanTagSize) } ∧
      w'.mem b = tagged (w.mem b) (wrap32 ((w.bufs b).xDataLength + vlanTagSize)) usTCI usTPID := by
  simp -implicitDefEqProofs [prvInsertVLANTag, pxResizeNetworkBufferWithDescriptor, nextCall, h, hp, tagged]

theorem prvInsertVLANTag_failed (h : w.env.pxResizeNetworkBufferWithDescriptor w.calls = false)
    (usTCI usTPID : UInt16) : (prvInsertVLANTag b usTCI usTPID).run w = .ok none (w.tick.release b) := by
  simp -implicitDefEqProofs [prvInsertVLANTag, pxResizeNetworkBufferWithDescriptor, nextCall, h]

end Insert

/-! ## Counting and removing tags -/

/-- The number of tags that `ucGetNumberOfTags` sees for a frame type. -/
def uxTagsOfType (usEthType : UInt16) : Nat :=
  if usEthType = vlantagTpidDoubleTag then 1 else if usEthType = vlantagTpidDefault then 2 else 0

/-- The number of tags that the strip takes from a frame of `n` bytes. -/
def uxTagsIn (m : Mem) (n : Nat) : Nat :=
  if n < ipSizeOfEthHeader then 0 else uxTagsOfType (swap16 (m.load16 ethFrameType))

/-- The length of a frame of `n` bytes after `k` tags were removed. -/
def lengthWithout (k n : Nat) : Nat := if k = 0 then n else sub32 n (k * vlanTagSize)

def memWithout (k n : Nat) (m : Mem) : Mem :=
  if k = 0 then m
  else m.move ethFrameType (ethFrameType + k * vlanTagSize) (sub32 (sub32 n (k * vlanTagSize)) ethFrameType)

/-- The bytes of a frame of `n` bytes when its tags are gone. -/
def strippedMem (m : Mem) (n : Nat) : Mem := memWithout (uxTagsIn m n) n m

def strippedLength (m : Mem) (n : Nat) : Nat := lengthWithout (uxTagsIn m n) n

section Strip

variable {w : World} {b : BufId}

theorem run_ucGetNumberOfTags (hp : (w.bufs b).pucEthernetBuffer = .eth b 0)
    (hlen : ipSizeOfEthHeader ≤ (w.bufs b).xDataLength) :
    (ucGetNumberOfTags b).run w =
      .ok (uxTagsOfType (swap16 ((w.mem b).load16 ethFrameType))) (w.accessed b ethFrameType 2) := by
  simp -implicitDefEqProofs only [ucGetNumberOfTags, uxTagsOfType, EStateM.run_bind, run_loadBuf, hp,
    if_neg (Nat.not_lt.mpr hlen), run_load16, Nat.zero_add]
  split
  · rfl
  · split <;> rfl

theorem prvStripVLANTag_untagged (hp : (w.bufs b).pucEthernetBuffer = .eth b 0)
    (hlen : ipSizeOfEthHeader ≤ (w.bufs b).xDataLength)
    (hty : uxTagsOfType (swap16 ((w.mem b).load16 ethFrameType)) = 0) :
    (prvStripVLANTag b).run w = .ok ⟨0, none, none⟩ (w.accessed b ethFrameType 2) := by
  simp -implicitDefEqProofs [prvStripVLANTag, run_ucGetNumberOfTags hp hlen, hty]

/-- The frame in `b` without its first `k` tags. -/
structure TagsRemoved (b : BufId) (k : Nat) (w w' : World) : Prop extends FrameStep b w w' where
  mem : w'.mem b = memWithout k (w.bufs b).xDataLength (w.mem b)
  xDataLength : (w'.bufs b).xDataLength = lengthWithout k (w.bufs b).xDataLength

theorem TagsRemoved.none {w' : World} (h : FrameStep b w w') (hb : w'.bufs = w.bufs) (hm : w'.mem = w.mem) :
    TagsRemoved b 0 w w' := ⟨h, by rw [hm]; rfl, by rw [hb]; rfl⟩

theorem run_prvRemoveTags (hp : (w.bufs b).pucEthernetBuffer = .eth b 0) {k : Nat} (hk : k ≠ 0) :
    ∃ w', (prvRemoveTags b k).run w = .ok () w' ∧ TagsRemoved b k w w' := by
  simp -implicitDefEqProofs only [prvRemoveTags, EStateM.run_bind, run_loadBuf, hp, run_moveBytes, run_modifyBuf,
    EStateM.Result.ok.injEq, true_and, exists_eq_left']
  refine ⟨?_, ?_, ?_⟩
  · exact ((((refl_of (FrameStep b) w).accessed b _ _).accessed b _ _).setMem _).setBuf (by simp [hp]) rfl rfl
  · simp [memWithout, hk]
  · simp [lengthWithout, hk]

theorem prvStripVLANTag_tagged (hp : (w.bufs b).pucEthernetBuffer = .eth b 0)
    (hlen : ipSizeOfEthHeader ≤ (w.bufs b).xDataLength)
    (hty : uxTagsOfType (swap16 ((w.mem b).load16 ethFrameType)) ≠ 0) :
    ∃ t w', (prvStripVLANTag b).run w = .ok t w' ∧
      t.uxNumTags = uxTagsOfType (swap16 ((w.mem b).load16 ethFrameType)) ∧
      TagsRemoved b (uxTagsOfType (swap16 ((w.mem b).load16 ethFrameType))) w w' := by
  have h₁ := (refl_of (FrameStep b) w).accessed b ethFrameType 2
  have h₂ := h₁.accessed b (0 + tagTci 0) 2
  have h₃ := h₂.accessed b (0 + tagTci 1) 2
  rw [prvStripVLANTag, run_bind_ok (run_ucGetNumberOfTags hp hlen), run_bind_ok (run_loadBuf _ _)]
  generalize uxTagsOfType (swap16 ((w.mem b).load16 ethFrameType)) = n at hty
  rw [World.accessed_bufs, hp]
  match n with
  | 0 => exact absurd rfl hty
  | 1 =>
      obtain ⟨w', hrun, hw'⟩ := run_prvRemoveTags (h₂.pucEthernetBuffer.trans hp) Nat.one_ne_zero
      exact ⟨⟨1, _, _⟩, w', (run_bind_ok (run_load16 _ _ _ _)).trans (run_bind_ok hrun), rfl,
        trans_of (FrameStep b) h₂ hw'.toFrameStep, hw'.mem, hw'.xDataLength⟩
  | n + 2 =>
      obtain ⟨w', hrun, hw'⟩ := run_prvRemoveTags (h₃.pucEthernetBuffer.trans hp) (Nat.succ_ne_zero (n + 1))
      exact ⟨⟨n + 2, _, _⟩, w', (run_bind_ok (run_load16 _ _ _ _)).trans
        ((run_bind_ok (run_load16 _ _ _ _)).trans (run_bind_ok hrun)), rfl,
        trans_of (FrameStep b) h₃ hw'.toFrameStep, hw'.mem, hw'.xDataLength⟩

theorem prvStripVLANTag_short (h : (w.bufs b).xDataLength < ipSizeOfEthHeader) :
    (prvStripVLANTag b).run w = .ok ⟨0, none, none⟩ w := by
  simp -implicitDefEqProofs [prvStripVLANTag, ucGetNumberOfTags, h]

theorem run_prvStripVLANTag (hp : (w.bufs b).pucEthernetBuffer = .eth b 0) :
    ∃ t w', (prvStripVLANTag b).run w = .ok t w' ∧ t.uxNumTags = uxTagsIn (w.mem b) (w.bufs b).xDataLength ∧
      TagsRemoved b (uxTagsIn (w.mem b) (w.bufs b).xDataLength) w w' := by
  by_cases hlen : (w.bufs b).xDataLength < ipSizeOfEthHeader
  · rw [uxTagsIn, if_pos hlen]
    exact ⟨_, w, prvStripVLANTag_short hlen, rfl, .none (refl_of (FrameStep b) w) rfl rfl⟩
  · rw [uxTagsIn, if_neg hlen]
    by_cases hty : uxTagsOfType (swap16 ((w.mem b).load16 ethFrameType)) = 0
    · have hstep := (refl_of (FrameStep b) w).accessed b ethFrameType 2
      rw [hty]
      exact ⟨_, _, prvStripVLANTag_untagged hp (Nat.not_lt.mp hlen) hty, rfl, .none hstep rfl rfl⟩
    · exact prvStripVLANTag_tagged hp (Nat.not_lt.mp hlen) hty

end Strip

/-! ## The tags of an interface -/

section Interface

variable {w w₁ w₂ : World} {b : BufId} {cfg : Config} {c : NetworkInterfaceConfig}

/-- With a tag to insert the wrapper inserts one, and then the second. -/
theorem uxInsertedTags_ne_zero (hc : uxInsertedTags cfg c ≠ 0) :
    cfg.tsnconfigWrapperInsertsVlanTags = true ∧ c.xNumTags ≥ 1 ∧ uxInsertedTags cfg c = min c.xNumTags 2 := by
  cases hw : cfg.tsnconfigWrapperInsertsVlanTags with
  | false => simp [uxInsertedTags, hw] at hc
  | true =>
      simp only [uxInsertedTags, hw, if_true] at hc ⊢
      exact ⟨trivial, by omega, trivial⟩

theorem uxInsertedTags_one_or_two (hc : uxInsertedTags cfg c ≠ 0) :
    uxInsertedTags cfg c = 1 ∨ uxInsertedTags cfg c = 2 := by
  obtain ⟨-, hone, hk⟩ := uxInsertedTags_ne_zero hc
  omega

theorem prvInsertInterfaceTags_one (hc : uxInsertedTags cfg c = 1)
    (h₁ : (prvInsertVLANTag b c.usVLANTag vlantagTpidDefault).run w = .ok (some b) w₁) :
    (prvInsertInterfaceTags cfg c b).run w = .ok true w₁ := by
  obtain ⟨hw, hone, hk⟩ := uxInsertedTags_ne_zero (hc.trans_ne Nat.one_ne_zero)
  have htwo : ¬c.xNumTags ≥ 2 := by omega
  simp -implicitDefEqProofs [prvInsertInterfaceTags, hw, hone, htwo, h₁]

theorem prvInsertInterfaceTags_two {pxNewBuffer : Option BufId} (hc : uxInsertedTags cfg c = 2)
    (h₁ : (prvInsertVLANTag b c.usVLANTag vlantagTpidDefault).run w = .ok (some b) w₁)
    (h₂ : (prvInsertVLANTag b c.usServiceVLANTag vlantagTpidDoubleTag).run w₁ = .ok pxNewBuffer w₂) :
    (prvInsertInterfaceTags cfg c b).run w = .ok pxNewBuffer.isSome w₂ := by
  obtain ⟨hw, hone, hk⟩ := uxInsertedTags_ne_zero (hc.trans_ne two_ne_zero)
  have htwo : c.xNumTags ≥ 2 := by omega
  cases pxNewBuffer <;> simp -implicitDefEqProofs [prvInsertInterfaceTags, hw, hone, htwo, h₁, h₂]

theorem prvInsertInterfaceTags_failed (hc : uxInsertedTags cfg c ≠ 0)
    (h₁ : (prvInsertVLANTag b c.usVLANTag vlantagTpidDefault).run w = .ok none w₁) :
    (prvInsertInterfaceTags cfg c b).run w = .ok false w₁ := by
  obtain ⟨hw, hone, -⟩ := uxInsertedTags_ne_zero hc
  simp -implicitDefEqProofs [prvInsertInterfaceTags, hw, hone, h₁]

theorem prvInsertInterfaceTags_none (hc : uxInsertedTags cfg c = 0) :
    (prvInsertInterfaceTags cfg c b).run w = .ok true w := by
  cases hw : cfg.tsnconfigWrapperInsertsVlanTags with
  | false => simp [prvInsertInterfaceTags, hw]
  | true =>
      have h : ¬c.xNumTags ≥ 1 := by
        simp only [uxInsertedTags, hw, if_true] at hc
        omega
      simp [prvInsertInterfaceTags, hw, h]

/-- The number of tags that are counted in a frame with `k` tags. -/
def uxTagsCounted : Nat → Nat
  | 1 => 2
  | _ => 1

/-- The tags are inserted, and the strip takes another number of them for present. -/
theorem prvInsertInterfaceTags_some (hp : (w.bufs b).pucEthernetBuffer = .eth b 0)
    (hres : ∀ n, w.env.pxResizeNetworkBufferWithDescriptor n = true) (hc : uxInsertedTags cfg c ≠ 0)
    (hlen : ipSizeOfEthHeader ≤ (w.bufs b).xDataLength)
    (hmax : (w.bufs b).xDataLength + vlanTagSize * uxInsertedTags cfg c < 2 ^ 32) :
    ∃ w', (prvInsertInterfaceTags cfg c b).run w = .ok true w' ∧
      (w'.bufs b).pucEthernetBuffer = .eth b 0 ∧ ipSizeOfEthHeader ≤ (w'.bufs b).xDataLength ∧
      uxTagsOfType (swap16 ((w'.mem b).load16 ethFrameType)) = uxTagsCounted (uxInsertedTags cfg c) := by
  obtain ⟨w₁, h₁, he₁, -, hb₁, hm₁⟩ := prvInsertVLANTag_ok hp (hres _) c.usVLANTag vlantagTpidDefault
  have hl₁ : (w₁.bufs b).xDataLength = (w.bufs b).xDataLength + vlanTagSize := by
    rw [hb₁]
    exact wrap32_of_lt (by simp only [vlanTagSize] at hmax ⊢; omega)
  rcases uxInsertedTags_one_or_two hc with hk | hk
  · refine ⟨w₁, prvInsertInterfaceTags_one hk h₁, ?_, by omega, ?_⟩
    · rw [hb₁]
      exact hp
    · rw [hm₁, tagged_tpid, swap16_swap16, hk]
      rfl
  · obtain ⟨w₂, h₂, -, -, hb₂, hm₂⟩ := prvInsertVLANTag_ok (w := w₁) (b := b) (by rw [hb₁]; exact hp)
      (by rw [he₁]; exact hres _) c.usServiceVLANTag vlantagTpidDoubleTag
    have hl₂ : (w₂.bufs b).xDataLength = (w₁.bufs b).xDataLength + vlanTagSize := by
      rw [hb₂]
      exact wrap32_of_lt (by simp only [vlanTagSize] at hmax hl₁ ⊢; omega)
    refine ⟨w₂, prvInsertInterfaceTags_two hk h₁ h₂, ?_, by omega, ?_⟩
    · rw [hb₂, hb₁]
      exact hp
    · rw [hm₂, tagged_tpid, swap16_swap16, hk]
      rfl

end Interface

end FreeRtosTsn.Packet
