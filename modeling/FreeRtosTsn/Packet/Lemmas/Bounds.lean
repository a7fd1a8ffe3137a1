import FreeRtosTsn.Packet.Lemmas.Parse

/-!
# Bounds of a reception

An access below the bound leaves no record, so the records of a run tell the largest offset. What the parser reads
after the strip decides where it reads next; as long as it is in bounds it reads what was behind the tags.
-/

namespace FreeRtosTsn.Packet

open Lib Kernel

variable {w w₁ : World} {b : BufId} {n : Nat}

/-! ## Records -/

@[simp] theorem boundTo_overruns : (boundTo b n w).overruns = [] := rfl

@[simp] theorem boundTo_cap : (boundTo b n w).cap b = n := by simp [boundTo]

@[simp] theorem boundTo_bufs : (boundTo b n w).bufs = w.bufs := rfl

@[simp] theorem boundTo_mem : (boundTo b n w).mem = w.mem := rfl

/-! ## The strip -/

theorem prvRemoveTags_overruns (hp : (w.bufs b).pucEthernetBuffer = .eth b 0) (k : Nat) :
    ∃ w', (prvRemoveTags b k).run w = .ok () w' ∧ (w'.overruns = [] ↔ w.overruns = [] ∧
      ethFrameType + k * vlanTagSize + sub32 (sub32 (w.bufs b).xDataLength (k * vlanTagSize)) ethFrameType ≤ w.cap b) := by
  simp -implicitDefEqProofs only [prvRemoveTags, EStateM.run_bind, run_loadBuf, hp, run_moveBytes, run_modifyBuf,
    EStateM.Result.ok.injEq, true_and, exists_eq_left']
  simp only [World.setBuf_overruns, World.setMem_overruns, accessed_overruns_eq_nil, World.accessed_cap, Nat.zero_add]
  -- The bytes that are overwritten come before those that are moved.
  exact ⟨fun h => h.1, fun h => ⟨h, by omega⟩⟩

theorem uxTagsOfType_cases (usEthType : UInt16) :
    uxTagsOfType usEthType = 0 ∨ uxTagsOfType usEthType = 1 ∨ uxTagsOfType usEthType = 2 := by
  unfold uxTagsOfType
  split
  · simp
  · split <;> simp

/-- The last tag is read to its end, and then what is behind it is moved. -/
theorem prvStripVLANTag_overruns (hp : (w.bufs b).pucEthernetBuffer = .eth b 0)
    (hlen : ipSizeOfEthHeader ≤ (w.bufs b).xDataLength) {k : Nat}
    (hk : uxTagsOfType (swap16 ((w.mem b).load16 ethFrameType)) = k) (hne : k ≠ 0) :
    ∃ t w', (prvStripVLANTag b).run w = .ok t w' ∧ (w'.overruns = [] ↔ w.overruns = [] ∧
      ethFrameType + k * vlanTagSize ≤ w.cap b ∧
      ethFrameType + k * vlanTagSize + sub32 (sub32 (w.bufs b).xDataLength (k * vlanTagSize)) ethFrameType ≤ w.cap b) := by
  have hcases := uxTagsOfType_cases (swap16 ((w.mem b).load16 ethFrameType))
  let w₂ := (w.accessed b ethFrameType 2).accessed b (0 + tagTci 0) 2
  rw [prvStripVLANTag, run_bind_ok (run_ucGetNumberOfTags hp hlen), run_bind_ok (run_loadBuf _ _), World.accessed_bufs, hp, hk]
  rw [hk] at hcases
  rcases hcases with rfl | rfl | rfl
  · exact absurd rfl hne
  · obtain ⟨w', hrun, hrec⟩ := prvRemoveTags_overruns (w := w₂) hp 1
    refine ⟨_, w', (run_bind_ok (run_load16 _ _ _ _)).trans (run_bind_ok hrun), ?_⟩
    simp only [w₂, accessed_overruns_eq_nil, World.accessed_cap, World.accessed_bufs, and_assoc] at hrec
    refine hrec.trans (and_congr_right fun _ => ?_)
    simp only [tagTci, ethFrameType, vlanTagSize]
    omega
  · obtain ⟨w', hrun, hrec⟩ := prvRemoveTags_overruns (w := w₂.accessed b (0 + tagTci 1) 2) hp 2
    refine ⟨_, w', (run_bind_ok (run_load16 _ _ _ _)).trans ((run_bind_ok (run_load16 _ _ _ _)).trans (run_bind_ok hrun)), ?_⟩
    simp only [w₂, accessed_overruns_eq_nil, World.accessed_cap, World.accessed_bufs, and_assoc] at hrec
    refine hrec.trans (and_congr_right fun _ => ?_)
    simp only [tagTci, ethFrameType, vlanTagSize]
    omega

/-- The strip stays within the frame if its tags do. -/
theorem prvStripVLANTag_staysBelow (hp : (w.bufs b).pucEthernetBuffer = .eth b 0) (hmax : (w.bufs b).xDataLength < 2 ^ 32) :
    StaysBelow b (w.bufs b).xDataLength (prvStripVLANTag b) w ↔
      (uxTagsIn (w.mem b) (w.bufs b).xDataLength ≠ 0 →
        ethFrameType + uxTagsIn (w.mem b) (w.bufs b).xDataLength * vlanTagSize ≤ (w.bufs b).xDataLength) := by
  unfold StaysBelow
  by_cases hlen : (w.bufs b).xDataLength < ipSizeOfEthHeader
  · rw [prvStripVLANTag_short (w := boundTo b _ w) hlen, uxTagsIn, if_pos hlen]
    simp
  · rw [uxTagsIn, if_neg hlen]
    rw [Nat.not_lt] at hlen
    by_cases hty : uxTagsOfType (swap16 ((w.mem b).load16 ethFrameType)) = 0
    · rw [prvStripVLANTag_untagged (w := boundTo b _ w) hp hlen hty, lastState_ok, accessed_overruns_eq_nil, boundTo_cap, hty]
      simp only [ipSizeOfEthHeader] at hlen
      simp [hlen, ethFrameType]
    · obtain ⟨t, w', hrun, hrec⟩ := prvStripVLANTag_overruns (w := boundTo b _ w) hp hlen rfl hty
      rw [hrun, lastState_ok, hrec, boundTo_cap]
      simp only [boundTo_overruns, boundTo_bufs, boundTo_mem, true_and, ne_eq, hty, not_false_iff, forall_true_left]
      refine ⟨fun h => h.1, fun h => ⟨h, ?_⟩⟩
      rw [sub32_of_le (by omega) hmax, sub32_of_le (by omega) (by omega)]
      omega

/-! ## The parser -/

theorem prvItemFor_heapStep (b : BufId) (f : ParsedFrame) : Keeps HeapStep (prvItemFor b f) := by
  apply (prvMsghFor_heapStep b f).bind
  intro pxMsgh
  cases pxMsgh with
  | none => exact Keeps.pure _
  | some pxMsgh =>
      apply (pvPortMalloc_heapStep _).bind
      intro a
      cases a with
      | none => exact Keeps.pure _
      | some a => exact Keeps.pure _

theorem prvParseStripped_staysBelow :
    StaysBelow b n (prvParseStripped b (.eth b 0) >>= prvItemFor b) w ↔ uxHeaderBytes (w.mem b) ≤ n := by
  obtain ⟨w', hrun, -, hrec⟩ := run_prvParseStripped (w := boundTo b n w) (b := b)
  rw [StaysBelow, run_bind_ok hrun]
  generalize hset : w'.setBuf b _ = w₂
  have hitem := prvItemFor_heapStep b (parsedOf ((boundTo b n w).mem b)) w₂
  rw [hitem.eq]
  subst hset
  simpa using hrec

theorem prvHandleReceive_xDataLength (hp : (w.bufs b).pucEthernetBuffer = .eth b 0) {t : StrippedTags}
    (hstrip : (prvStripVLANTag b).run w = .ok t w₁) :
    ((lastState ((prvHandleReceive b).run w)).bufs b).xDataLength = (w₁.bufs b).xDataLength := by
  obtain ⟨t', w₁', w₂, hstrip', -, hparse, -, -, hb⟩ := run_prvParseFrame hp
  rw [hstrip] at hstrip'
  cases hstrip'
  rw [prvHandleReceive_eq, run_bind_ok hparse, (prvItemFor_heapStep b _ w₂).eq]
  change (w₂.bufs b).xDataLength = _
  rw [hb]

/-! ## The headers -/

/-- The headers of a frame are decided by the bytes they take. -/
theorem uxHeaderBytes_congr {m m' : Mem} (hm : ∀ i, ethFrameType ≤ i → i < n → m i = m' i) (hn : uxPrefixOf m ≤ n) :
    uxHeaderBytes m' = uxHeaderBytes m := by
  have hge := uxPrefixOf_ge m
  simp only [ipSizeOfEthHeader] at hge
  have htype : m.load16 ethFrameType = m'.load16 ethFrameType :=
    Mem.load16_congr fun i hi => hm _ (by omega) (by simp only [ethFrameType]; omega)
  have hprefix : uxPrefixOf m' = uxPrefixOf m := by simp only [uxPrefixOf, htype]
  have hproto : protocolOf m' = protocolOf m := by
    unfold protocolOf
    rw [← htype]
    unfold uxPrefixOf at hn
    split
    · rename_i h4
      rw [if_pos h4] at hn
      exact (hm _ (by decide) (by simp only [ipSizeOfEthHeader, ipSizeOfIPv4Header] at hn ⊢; omega)).symm
    · rename_i h4
      split
      · rename_i h6
        rw [if_neg h4, if_pos h6] at hn
        exact (hm _ (by decide) (by simp only [ipSizeOfEthHeader, ipSizeOfIPv6Header] at hn ⊢; omega)).symm
      · rfl
  rw [uxHeaderBytes, uxHeaderBytes, hasPorts, hasPorts, hprefix, hproto]

theorem uxPrefixOf_le (m : Mem) : uxPrefixOf m ≤ uxHeaderBytes m := Nat.le_add_right _ _

section Behind

variable {m : Mem} {k : Nat}

theorem lengthWithout_eq (h : k ≠ 0 → ethFrameType + k * vlanTagSize ≤ n) (hmax : n < 2 ^ 32) :
    lengthWithout k n = n - k * vlanTagSize := by
  unfold lengthWithout
  split
  · rename_i hk
    rw [hk, Nat.zero_mul, Nat.sub_zero]
  · rename_i hk
    have hle := h hk
    exact sub32_of_le (by omega) hmax

theorem memWithout_eq (h : k ≠ 0 → ethFrameType + k * vlanTagSize ≤ n) (hmax : n < 2 ^ 32) {i : Nat}
    (hi : ethFrameType ≤ i) (hin : i < n - k * vlanTagSize) : memWithout k n m i = behindTags k m i := by
  unfold memWithout behindTags
  split
  · rename_i hk
    rw [hk, Nat.zero_mul, Nat.add_zero]
  · rename_i hk
    have hle := h hk
    rw [sub32_of_le (by omega) hmax, sub32_of_le (by omega) (by omega), Mem.move, if_pos (by omega)]
    congr 1
    omega

/-- Tags and headers are there before the strip, or the tags before it and the headers after it. -/
theorem headers_without_iff (hmax : n < 2 ^ 32) :
    ((k ≠ 0 → ethFrameType + k * vlanTagSize ≤ n) ∧ uxHeaderBytes (memWithout k n m) ≤ lengthWithout k n) ↔
      uxHeaderBytes (behindTags k m) + k * vlanTagSize ≤ n := by
  constructor
  · rintro ⟨htags, hheaders⟩
    rw [lengthWithout_eq htags hmax] at hheaders
    have hprefix := Nat.le_trans (uxPrefixOf_le _) hheaders
    have hge := Nat.le_trans (uxPrefixOf_ge _) hprefix
    have hsame : uxHeaderBytes (behindTags k m) = uxHeaderBytes (memWithout k n m) :=
      uxHeaderBytes_congr (fun i hi hin => memWithout_eq htags hmax hi hin) hprefix
    simp only [ipSizeOfEthHeader] at hge
    omega
  · intro h
    have hprefix := uxPrefixOf_le (behindTags k m)
    have hge := uxPrefixOf_ge (behindTags k m)
    simp only [ipSizeOfEthHeader] at hge
    have htags : k ≠ 0 → ethFrameType + k * vlanTagSize ≤ n := by
      intro _
      simp only [ethFrameType]
      omega
    have hsame : uxHeaderBytes (memWithout k n m) = uxHeaderBytes (behindTags k m) :=
      uxHeaderBytes_congr (fun i hi hin => (memWithout_eq htags hmax hi hin).symm) (by omega)
    refine ⟨htags, ?_⟩
    rw [lengthWithout_eq htags hmax, hsame]
    omega

end Behind

/-! ## Receptions -/

theorem receives_iff_headersPresent (hp : (w.bufs b).pucEthernetBuffer = .eth b 0) (hmax : (w.bufs b).xDataLength < 2 ^ 32)
    {t : StrippedTags} (hstrip : (prvStripVLANTag b).run w = .ok t w₁) :
    ReceivesInBounds b w t w₁ ↔ HeadersPresent (w.mem b) (w.bufs b).xDataLength := by
  obtain ⟨t', w₁', hstrip', ht, hremoved⟩ := run_prvStripVLANTag hp
  rw [hstrip] at hstrip'
  cases hstrip'
  have hbelow := prvStripVLANTag_staysBelow hp hmax
  have hparse : StaysBelow b (w₁.bufs b).xDataLength
      (prvParseStripped b (w.bufs b).pucEthernetBuffer >>= prvItemFor b) w₁ ↔
      uxHeaderBytes (w₁.mem b) ≤ (w₁.bufs b).xDataLength := by
    rw [hp]
    exact prvParseStripped_staysBelow
  have hlen := prvHandleReceive_xDataLength hp hstrip
  rw [HeadersPresent, ← headers_without_iff hmax, ← hremoved.mem, ← hremoved.xDataLength]
  constructor
  · intro h
    exact ⟨hbelow.mp h.strip, hparse.mp h.parse⟩
  · rintro ⟨htags, hheaders⟩
    refine ⟨hbelow.mpr htags, ht ▸ htags, hparse.mpr hheaders, ?_⟩
    rw [hlen, hremoved.xDataLength, lengthWithout_eq htags hmax, ht]
    apply Nat.sub_add_cancel
    by_cases hk : uxTagsIn (w.mem b) (w.bufs b).xDataLength = 0
    · simp [hk]
    · exact Nat.le_trans (Nat.le_add_left _ _) (htags hk)

end FreeRtosTsn.Packet
