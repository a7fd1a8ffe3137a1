import FreeRtosTsn.Fields.Spec
import FreeRtosTsn.Packet.Lemmas.Tags

/-!
# What the accessors of tags do

No pointer to a tag is ever found, so the getters see no tags and no setter succeeds.
-/

namespace FreeRtosTsn.Fields

open Lib Kernel Packet

variable {w : World} {b : BufId}

/-! ## Calls -/

theorem Returns.unique {α : Type} {x : M α} {a a' : α} (h : Returns x w a) (h' : Returns x w a') : a = a' := by
  obtain ⟨w₁, h⟩ := h
  obtain ⟨w₂, h'⟩ := h'
  rw [h] at h'
  cases h'
  rfl

/-! ## Types -/

theorem swap16_load16_eq_iff (m : Mem) (i : Nat) (x : UInt16) : swap16 (m.load16 i) = x ↔ etherTypeAt m i = x.toNat := by
  rw [← UInt16.toNat_inj, Mem.swap16_load16_toNat, etherTypeAt]

theorem load16_eq_iff (m : Mem) (i : Nat) (x : UInt16) : m.load16 i = x ↔ etherTypeAt m i = (swap16 x).toNat := by
  rw [← swap16_load16_eq_iff]
  constructor
  · intro h
    rw [h]
  · intro h
    rw [← swap16_swap16 (m.load16 i), h, swap16_swap16]

theorem etherTypeAt_congr {m m' : Mem} {k : Nat} (h : m' k = m k) (h' : m' (k + 1) = m (k + 1)) :
    etherTypeAt m' k = etherTypeAt m k := by
  rw [etherTypeAt, etherTypeAt, Mem.field_two_bytes, Mem.field_two_bytes, h, h']

/-! ## Tags -/

@[simp] theorem prvGetVLANSTag_eq (b : BufId) (n : Nat) : prvGetVLANSTag b n = pure none := by
  unfold prvGetVLANSTag
  split <;> rfl

@[simp] theorem prvGetVLANCTag_eq (b : BufId) (n : Nat) : prvGetVLANCTag b n = pure none := by
  unfold prvGetVLANCTag
  split <;> rfl

theorem ucGetNumberOfTags_reads (hp : (w.bufs b).pucEthernetBuffer = .eth b 0) :
    ∃ n w', (ucGetNumberOfTags b).run w = .ok n w' := by
  by_cases hlen : (w.bufs b).xDataLength < ipSizeOfEthHeader
  · exact ⟨0, w, by simp [ucGetNumberOfTags, hlen]⟩
  · exact ⟨_, _, run_ucGetNumberOfTags hp (Nat.le_of_not_lt hlen)⟩

theorem prvGetField_returns (hp : (w.bufs b).pucEthernetBuffer = .eth b 0) {prvGetVLANTag : BufId → Nat → M (Option Ptr)}
    (hnone : ∀ n, prvGetVLANTag b n = pure none) (fnGet : UInt16 → UInt16) :
    Returns (prvGetField prvGetVLANTag fnGet b) w (-1) := by
  obtain ⟨n, w', hrun⟩ := ucGetNumberOfTags_reads hp
  refine ⟨w', ?_⟩
  rw [prvGetField, run_bind_ok hrun, hnone]
  rfl

/-- The getters see no tag in any frame. -/
theorem getter_returns (hp : (w.bufs b).pucEthernetBuffer = .eth b 0) (k : TagKind) (f : TagField) :
    Returns (getter k f b) w (-1) := by
  cases k with
  | customer => cases f <;> exact prvGetField_returns hp (prvGetVLANCTag_eq b) _
  | service => cases f <;> exact prvGetField_returns hp (prvGetVLANSTag_eq b) _

theorem checkClass_returns (hp : (w.bufs b).pucEthernetBuffer = .eth b 0) (k : TagKind) (p : Int) :
    Returns (checkClass k b p) w false := by
  have hcheck : ∀ {x : BufId → M Int}, Returns (x b) w (-1) → Returns (prvCheckClass x b p) w false := by
    rintro x ⟨w', hrun⟩
    exact ⟨w', by rw [prvCheckClass, run_bind_ok hrun]; rfl⟩
  cases k with
  | customer => exact hcheck (getter_returns hp .customer .pcp)
  | service => exact hcheck (getter_returns hp .service .pcp)

/-! ## Setters -/

theorem prvPrepareAndGetVLANCTag_none {p : Option Ptr} {w' : World}
    (h : (prvPrepareAndGetVLANCTag b).run w = .ok p w') : p = none := by
  obtain ⟨n, w₁, -, h⟩ := run_bind_inv h
  split at h
  · simp [storeTPID] at h
  · cases h
    rfl
  · cases h
    rfl
  · cases h
    rfl

theorem prvPrepareAndGetVLANSTag_none {p : Option Ptr} {w' : World}
    (h : (prvPrepareAndGetVLANSTag b).run w = .ok p w') : p = none := by
  obtain ⟨n, w₁, -, h⟩ := run_bind_inv h
  split at h
  · simp [storeTPID] at h
  · simp [storeTPID] at h
  · cases h
    rfl
  · cases h
    rfl

/-- A setter that gets no pointer does not return `pdTRUE`. -/
theorem prvSetField_not_true {prvPrepareAndGetVLANTag : BufId → M (Option Ptr)}
    (hnone : ∀ {p w'}, (prvPrepareAndGetVLANTag b).run w = .ok p w' → p = none) (fnSet : UInt16 → Int → UInt16)
    (v : Int) (w' : World) : (prvSetField prvPrepareAndGetVLANTag fnSet b v).run w ≠ .ok true w' := by
  intro h
  obtain ⟨p, w₁, hp, h⟩ := run_bind_inv h
  rw [hnone hp] at h
  cases h

theorem setter_not_true (k : TagKind) (f : TagField) (v : Int) (w' : World) : (setter k f b v).run w ≠ .ok true w' := by
  cases k with
  | customer => cases f <;> exact prvSetField_not_true prvPrepareAndGetVLANCTag_none _ v w'
  | service => cases f <;> exact prvSetField_not_true prvPrepareAndGetVLANSTag_none _ v w'

end FreeRtosTsn.Fields
