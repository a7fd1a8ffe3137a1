import FreeRtosTsn.Packet.Lemmas.Control

/-!
# Main results on control messages

What is packed is found again.
-/

namespace FreeRtosTsn.Packet

open Lib

/-- **Round trip**: the messages come back unless a length is too much for a `socklen_t`, or the end of a header
after the last one for an `unsigned long`. -/
theorem control_round_trip_iff (D : DataModel) {cs : List ControlMsg} (hcs : cs ≠ [])
    (htotal : D.totalSpace cs < 2 ^ D.sizeBits) :
    D.RoundTrips cs ↔ (∀ c ∈ cs, D.cmsgLen c.data.length < 2 ^ 32) ∧
      D.totalSpace cs + cmsghdrSize < 2 ^ (8 * D.sizeofLong) := by
  have hwalk : ∀ (ctl : Mem) (l : List Nat), D.ControlWalk ctl (D.totalSpace cs) l ↔
      Walk (D.cmsgNxtHdr ctl (D.totalSpace cs)) (some 0) l := by
    intro ctl l
    rw [DataModel.ControlWalk, DataModel.cmsgFirstHdr_eq hcs]
  have hlead := fun ctl hlen => DataModel.offsets_lead (D.packedFields_read 0 cs ctl) hlen hcs (Nat.zero_add _) htotal
  constructor
  · intro h
    have hlen := h.cmsgLen_lt
    have hpacked := h.packed fun _ => 0
    rw [DataModel.xAncillaryMsgControlFill_eq htotal hlen] at hpacked
    obtain ⟨-, -, ctl, l, hctl, hl, hmsgs⟩ := hpacked
    cases hctl
    obtain ⟨r, rfl, hr⟩ := (hlead _ hlen).walk_iff.mp ((hwalk _ l).mp hl)
    -- there are no more headers than messages, so the walk ends behind the last message
    have hnil : r = [] := by
      have hcount := hmsgs.length_eq
      rw [List.length_append, DataModel.offsets_length] at hcount
      exact List.length_eq_zero_iff.mp (by omega)
    rw [hnil, Walk.nil_iff, ite_eq_left_iff, imp_iff_not (by simp), not_not] at hr
    exact ⟨hlen, (DataModel.lt_add_mod_iff (by decide) D.cmsghdrSize_le).mp hr⟩
  · rintro ⟨hlen, hroom⟩
    refine ⟨?_, rfl, rfl⟩
    intro ctl
    have hl := hlead ctl hlen
    rw [if_pos ((DataModel.lt_add_mod_iff (by decide) D.cmsghdrSize_le).mpr hroom)] at hl
    rw [DataModel.xAncillaryMsgControlFill_eq htotal hlen]
    refine ⟨rfl, ?_, _, _, rfl, (hwalk _ _).mpr hl, ?_⟩
    · intro f hf
      exact (DataModel.packedFields_within hf).2.trans (Nat.zero_add _).le
    · exact DataModel.messages_found (D.packedFields_read 0 cs ctl) hlen

/-- Two messages of three and of one byte, with a `long` of 8 bytes. -/
theorem control_round_trip_two : lp64.RoundTrips [⟨1, 2, [1, 2, 3]⟩, ⟨3, 4, [5]⟩] :=
  (control_round_trip_iff lp64 (List.cons_ne_nil _ _) (by decide)).mpr (by decide)

/-- The length of a message with 2 ^ 32 bytes of data is stored as that of a header. -/
theorem truncates_of_length {data : List UInt8} (hdata : data.length = 2 ^ 32) :
    lp64.totalSpace [⟨1, 2, data⟩] < 2 ^ lp64.sizeBits ∧ ¬lp64.RoundTrips [⟨1, 2, data⟩] := by
  have hspace : lp64.space ⟨1, 2, data⟩ = 2 ^ 32 + 16 := by
    rw [DataModel.space, hdata]
    rfl
  constructor
  · rw [DataModel.totalSpace_cons, hspace]
    decide
  · intro h
    have hlt := h.cmsgLen_lt ⟨1, 2, data⟩ List.mem_cons_self
    rw [DataModel.cmsgLen_eq (by rw [hspace]; decide), hdata] at hlt
    exact absurd hlt (by decide)

theorem control_length_truncated : lp64.totalSpace [⟨1, 2, List.replicate (2 ^ 32) 0⟩] < 2 ^ lp64.sizeBits ∧
    ¬lp64.RoundTrips [⟨1, 2, List.replicate (2 ^ 32) 0⟩] :=
  truncates_of_length List.length_replicate

end FreeRtosTsn.Packet
