import FreeRtosTsn.Packet.Control
import Mathlib.Algebra.Order.BigOperators.Group.List
import Mathlib.Algebra.Order.Ring.Nat

/-!
# Where packed messages are found

The messages are packed one after the other, each at the sum of the sizes of those before it.
-/

namespace FreeRtosTsn.Packet.DataModel

open Lib

variable {D : DataModel} {c : ControlMsg} {cs : List ControlMsg} {ctl : Mem} {n off size : Nat}

/-! ## Alignment -/

theorem sizeofLong_dvd (D : DataModel) : D.sizeofLong ∣ 2 ^ D.sizeBits := by
  have hge := D.sizeBits_ge
  rcases D.sizeofLong_eq with h | h
  · rw [h]
    exact Nat.pow_dvd_pow 2 (show 2 ≤ D.sizeBits by omega)
  · rw [h]
    exact Nat.pow_dvd_pow 2 (show 3 ≤ D.sizeBits by omega)

theorem two_pow_le (D : DataModel) : 2 ^ 32 ≤ 2 ^ D.sizeBits := by
  have hge := D.sizeBits_ge
  apply Nat.pow_le_pow_right (by omega)
  rcases D.sizeofLong_eq with h | h
  · omega
  · omega

theorem cmsghdrSize_le (D : DataModel) : cmsghdrSize ≤ 2 ^ (8 * D.sizeofLong) := by
  rcases D.sizeofLong_eq with h | h
  · rw [h]
    decide
  · rw [h]
    decide

theorem le_align (D : DataModel) (n : Nat) : n ≤ D.align n := by
  unfold align
  rcases D.sizeofLong_eq with h | h
  · rw [h]
    omega
  · rw [h]
    omega

theorem align_header (D : DataModel) : cmsghdrSize ≤ D.align cmsghdrSize ∧ D.align cmsghdrSize ≤ 16 := by
  simp only [align, cmsghdrSize]
  rcases D.sizeofLong_eq with h | h
  · simp [h]
  · simp [h]

/-- The size of a header is aligned already, so only the data is padded. -/
theorem align_header_add (D : DataModel) (n : Nat) :
    D.align (D.align cmsghdrSize + n) = D.align cmsghdrSize + D.align n := by
  simp only [align, cmsghdrSize]
  rcases D.sizeofLong_eq with h | h
  · simp only [h]
    omega
  · simp only [h]
    omega

/-- The addition before the rounding does not wrap when the result fits. -/
theorem cmsgAlign_eq (h : D.align n < 2 ^ D.sizeBits) : D.cmsgAlign n = D.align n := by
  obtain ⟨k, hk⟩ := D.sizeofLong_dvd
  have hn : n + D.sizeofLong - 1 < 2 ^ D.sizeBits := by
    rw [align] at h
    rcases D.sizeofLong_eq with hL | hL
    · rw [hL] at h hk ⊢
      omega
    · rw [hL] at h hk ⊢
      omega
  rw [cmsgAlign, wrapSize, Nat.mod_eq_of_lt hn, align]

@[simp] theorem cmsgAlign_header (D : DataModel) : D.cmsgAlign cmsghdrSize = D.align cmsghdrSize := by
  have hle := D.two_pow_le
  have h16 := D.align_header.2
  exact cmsgAlign_eq (by omega)

theorem cmsgSpace_eq (h : D.space c < 2 ^ D.sizeBits) : D.cmsgSpace c.data.length = D.space c := by
  have hdata : D.align c.data.length < 2 ^ D.sizeBits := (Nat.le_add_left _ _).trans_lt h
  rw [cmsgSpace, cmsgAlign_header, cmsgAlign_eq hdata, wrapSize]
  exact Nat.mod_eq_of_lt h

theorem cmsgLen_eq (h : D.space c < 2 ^ D.sizeBits) :
    D.cmsgLen c.data.length = D.align cmsghdrSize + c.data.length := by
  have hle : D.align cmsghdrSize + c.data.length ≤ D.space c := Nat.add_le_add_left (D.le_align _) _
  rw [cmsgLen, cmsgAlign_header, wrapSize]
  exact Nat.mod_eq_of_lt (hle.trans_lt h)

theorem cmsgLen_le (h : D.space c < 2 ^ D.sizeBits) : D.cmsgLen c.data.length ≤ D.space c := by
  rw [cmsgLen_eq h]
  exact Nat.add_le_add_left (D.le_align _) _

theorem cmsgAlign_cmsgLen (h : D.space c < 2 ^ D.sizeBits) : D.cmsgAlign (D.cmsgLen c.data.length) = D.space c := by
  have halign : D.align (D.cmsgLen c.data.length) = D.space c := by
    rw [cmsgLen_eq h, align_header_add, space]
  rw [cmsgAlign_eq (by rw [halign]; exact h), halign]

@[simp] theorem totalSpace_nil : D.totalSpace [] = 0 := rfl

@[simp] theorem totalSpace_cons : D.totalSpace (c :: cs) = D.space c + D.totalSpace cs := rfl

theorem le_space (D : DataModel) (c : ControlMsg) : cmsghdrSize ≤ D.space c :=
  D.align_header.1.trans (Nat.le_add_right _ _)

theorem le_totalSpace (hcs : cs ≠ []) : cmsghdrSize ≤ D.totalSpace cs := by
  obtain ⟨c, cs, rfl⟩ := List.exists_cons_of_ne_nil hcs
  exact (D.le_space c).trans (Nat.le_add_right _ _)

theorem space_le (hc : c ∈ cs) : D.space c ≤ D.totalSpace cs :=
  List.le_sum_of_mem (List.mem_map_of_mem hc)

theorem uxTotalSpace_eq (h : D.totalSpace cs < 2 ^ D.sizeBits) : D.uxTotalSpace cs = D.totalSpace cs := by
  have hfold : ∀ n, n + D.totalSpace cs < 2 ^ D.sizeBits →
      cs.foldl (fun uxTotal c => D.wrapSize (uxTotal + D.cmsgSpace c.data.length)) n = n + D.totalSpace cs := by
    clear h
    induction cs with
    | nil => simp
    | cons c cs ih =>
        intro n h
        rw [totalSpace_cons] at h
        have hstep : D.wrapSize (n + D.cmsgSpace c.data.length) = n + D.space c := by
          rw [cmsgSpace_eq (by omega), wrapSize]
          exact Nat.mod_eq_of_lt (by omega)
        rw [List.foldl_cons, hstep, ih _ (by omega), totalSpace_cons, Nat.add_assoc]
  rw [uxTotalSpace, hfold 0 (by omega), Nat.zero_add]

/-- The comparison at the end finds that there is no room, unless what it compares wraps. -/
theorem lt_add_mod_iff {k m : Nat} (hk : 0 < k) (hm : k ≤ m) : n < (n + k) % m ↔ n + k < m := by
  constructor
  · intro h
    by_contra hge
    have hmod : (n + k) % m = (n + k - m) % m := Nat.mod_eq_sub_mod (by omega)
    have hle := Nat.mod_le (n + k - m) m
    omega
  · intro h
    rw [Nat.mod_eq_of_lt h]
    omega

/-! ## The messages in their places -/

theorem controlFields_within {f : Nat × List UInt8} (hf : f ∈ D.controlFields off c) :
    off ≤ f.1 ∧ f.1 + f.2.length ≤ off + D.space c := by
  have h12 := D.align_header.1
  have hdata := D.le_align c.data.length
  simp only [controlFields, cmsgData, cmsgAlign_header, List.mem_cons, List.not_mem_nil, or_false] at hf
  simp only [cmsghdrSize] at h12
  rcases hf with rfl | rfl | rfl | rfl
  · simp [space, cmsghdrSize]
    omega
  · simp [space, cmsghdrSize]
    omega
  · simp [space, cmsghdrSize]
    omega
  · simp [space]
    omega

theorem packedFields_within {f : Nat × List UInt8} (hf : f ∈ D.packedFields off cs) :
    off ≤ f.1 ∧ f.1 + f.2.length ≤ off + D.totalSpace cs := by
  induction cs generalizing off with
  | nil => cases hf
  | cons c cs ih =>
      rw [totalSpace_cons]
      rcases List.mem_append.mp hf with hf | hf
      · have := controlFields_within hf
        omega
      · have := ih hf
        omega

theorem controlFields_separate (D : DataModel) (off : Nat) (c : ControlMsg) :
    (D.controlFields off c).Pairwise Mem.Separate := by
  have h12 : 12 ≤ D.align cmsghdrSize := D.align_header.1
  simp [controlFields, cmsgData, Mem.Separate]
  omega

theorem packedFields_separate (D : DataModel) (off : Nat) (cs : List ControlMsg) :
    (D.packedFields off cs).Pairwise Mem.Separate := by
  induction cs generalizing off with
  | nil => exact .nil
  | cons c cs ih =>
      rw [packedFields, List.pairwise_append]
      refine ⟨D.controlFields_separate off c, ih _, ?_⟩
      intro f hf g hg
      exact .inl ((controlFields_within hf).2.trans (packedFields_within hg).1)

/-- A message whose fields are in the block is read back if its length fits in a `socklen_t`. -/
theorem messageOf_of_read (h : ∀ f ∈ D.controlFields off c, ctl.read f.1 f.2.length = f.2)
    (hlen : D.cmsgLen c.data.length < 2 ^ 32) : D.MessageOf ctl c off := by
  simp only [controlFields, List.mem_cons, List.not_mem_nil, or_false, forall_eq_or_imp, forall_eq] at h
  obtain ⟨h₁, h₂, h₃, h₄⟩ := h
  refine ⟨⟨?_, Mem.load32_of_read h₂, Mem.load32_of_read h₃⟩, h₄⟩
  rw [Mem.load32_of_read h₁, UInt32.toNat_ofNat', Nat.mod_eq_of_lt hlen]

theorem HeaderOf.congr {ctl' : Mem} (h : D.HeaderOf ctl c off) (hm : ∀ i < cmsghdrSize, ctl' (off + i) = ctl (off + i)) :
    D.HeaderOf ctl' c off := by
  have hat : ∀ k, k + 4 ≤ cmsghdrSize → ctl'.load32 (off + k) = ctl.load32 (off + k) := by
    intro k hk
    apply Mem.load32_congr
    intro i hi
    rw [Nat.add_assoc]
    exact hm (k + i) (by omega)
  refine ⟨?_, (hat 4 (by decide)).trans h.cmsgLevel, (hat 8 (by decide)).trans h.cmsgType⟩
  rw [← h.cmsgLen]
  exact congrArg UInt32.toNat (hat 0 (by decide))

theorem HeaderOf.cmsgNxtHdr (h : D.HeaderOf ctl c off) (hc : D.space c < 2 ^ D.sizeBits) (size : Nat) :
    D.cmsgNxtHdr ctl size off =
      if (off + D.space c + cmsghdrSize) % 2 ^ (8 * D.sizeofLong) > size then none else some (off + D.space c) := by
  rw [DataModel.cmsgNxtHdr, h.cmsgLen, cmsgAlign_cmsgLen hc]

/-- The next header is not given up while it has room. -/
theorem HeaderOf.cmsgNxtHdr_some (h : D.HeaderOf ctl c off) (hc : D.space c < 2 ^ D.sizeBits)
    (hsize : off + D.space c + cmsghdrSize ≤ size) : D.cmsgNxtHdr ctl size off = some (off + D.space c) := by
  rw [h.cmsgNxtHdr hc, if_neg]
  have := Nat.mod_le (off + D.space c + cmsghdrSize) (2 ^ (8 * D.sizeofLong))
  omega

theorem HeaderOf.cmsgNxtHdr_of_room (h : D.HeaderOf ctl c off) (hc : D.space c < 2 ^ D.sizeBits)
    (hroom : off + D.space c + cmsghdrSize < 2 ^ (8 * D.sizeofLong)) (n : Nat) :
    D.cmsgNxtHdr ctl n off = if off + D.space c + cmsghdrSize ≤ n then some (off + D.space c) else none := by
  rw [h.cmsgNxtHdr hc, Nat.mod_eq_of_lt hroom, ← ite_not]
  simp

/-- When the end of the next header wraps, it seems to be near the start. -/
theorem HeaderOf.cmsgNxtHdr_of_wrap (h : D.HeaderOf ctl c off) (hc : D.space c < 2 ^ D.sizeBits)
    (hlt : off + D.space c < 2 ^ (8 * D.sizeofLong))
    (hwrap : 2 ^ (8 * D.sizeofLong) ≤ off + D.space c + cmsghdrSize) (hn : cmsghdrSize ≤ n) :
    D.cmsgNxtHdr ctl n off = some (off + D.space c) := by
  have hm := D.cmsghdrSize_le
  rw [h.cmsgNxtHdr hc, if_neg]
  rw [Nat.mod_eq_sub_mod hwrap, Nat.mod_eq_of_lt (by omega)]
  omega

/-! ## The loop -/

theorem prvPackControl_eq (hlen : ∀ c ∈ cs, D.cmsgLen c.data.length < 2 ^ 32) (hsize : off + D.totalSpace cs ≤ size)
    (hw : size < 2 ^ D.sizeBits) : D.prvPackControl size ctl (some off) cs = (true, D.packedFields off cs) := by
  induction cs generalizing ctl off with
  | nil => rfl
  | cons c cs ih =>
      rw [totalSpace_cons] at hsize
      have hread : ∀ f ∈ D.controlFields off c,
          (ctl.writeAll (D.controlFields off c)).read f.1 f.2.length = f.2 :=
        fun f hf => Mem.writeAll_read (D.controlFields_separate off c) hf ctl
      have hmsg := messageOf_of_read hread (hlen c List.mem_cons_self)
      rw [prvPackControl]
      cases cs with
      | nil => cases D.cmsgNxtHdr (ctl.writeAll (D.controlFields off c)) size off <;> rfl
      | cons c' cs =>
          have h12 := D.le_space c'
          rw [hmsg.cmsgNxtHdr_some (by omega) (by rw [totalSpace_cons] at hsize; omega),
            ih (fun d hd => hlen d (List.mem_cons_of_mem c hd)) (by omega)]
          rfl

section Found

variable (hread : ∀ f ∈ D.packedFields off cs, ctl.read f.1 f.2.length = f.2)
  (hlen : ∀ c ∈ cs, D.cmsgLen c.data.length < 2 ^ 32)
include hread hlen

theorem messages_found : List.Forall₂ (D.MessageOf ctl) cs (D.offsets off cs) := by
  induction cs generalizing off with
  | nil => exact .nil
  | cons c cs ih =>
      refine .cons ?_ ?_
      · exact messageOf_of_read (fun f hf => hread f (List.mem_append_left _ hf)) (hlen c List.mem_cons_self)
      · exact ih (fun f hf => hread f (List.mem_append_right _ hf)) fun d hd => hlen d (List.mem_cons_of_mem c hd)

/-- Each header leads to the next, and the last one past the end unless the comparison finds that. -/
theorem offsets_lead (hcs : cs ≠ []) (hsize : off + D.totalSpace cs = size) (hw : size < 2 ^ D.sizeBits) :
    Leads (D.cmsgNxtHdr ctl size) (some off) (D.offsets off cs)
      (if (size + cmsghdrSize) % 2 ^ (8 * D.sizeofLong) > size then none else some size) := by
  induction cs generalizing off with
  | nil => exact absurd rfl hcs
  | cons c cs ih =>
      rw [totalSpace_cons] at hsize
      have hmsg := messageOf_of_read (fun f hf => hread f (List.mem_append_left _ hf)) (hlen c List.mem_cons_self)
      rw [offsets]
      apply Leads.visit
      cases cs with
      | nil =>
          rw [totalSpace_nil, Nat.add_zero] at hsize
          rw [hmsg.cmsgNxtHdr (by omega), hsize]
          exact .here _
      | cons c' cs =>
          have h12 := D.le_space c'
          rw [hmsg.cmsgNxtHdr_some (by omega) (by rw [totalSpace_cons] at hsize; omega)]
          exact ih (fun f hf => hread f (List.mem_append_right _ hf)) (fun d hd => hlen d (List.mem_cons_of_mem c hd))
            (List.cons_ne_nil c' cs) (by omega)

end Found

/-! ## A call -/

theorem offsets_length (D : DataModel) (off : Nat) (cs : List ControlMsg) : (D.offsets off cs).length = cs.length := by
  induction cs generalizing off with
  | nil => rfl
  | cons c cs ih => simp [offsets, ih]

theorem cmsgFirstHdr_eq (hcs : cs ≠ []) : cmsgFirstHdr (D.totalSpace cs) = some 0 := if_pos (le_totalSpace hcs)

theorem packedFields_read (D : DataModel) (off : Nat) (cs : List ControlMsg) (ctl : Mem) :
    ∀ f ∈ D.packedFields off cs, (ctl.writeAll (D.packedFields off cs)).read f.1 f.2.length = f.2 :=
  fun _ hf => Mem.writeAll_read (D.packedFields_separate off cs) hf ctl

theorem xAncillaryMsgControlFill_eq (htotal : D.totalSpace cs < 2 ^ D.sizeBits)
    (hlen : ∀ c ∈ cs, D.cmsgLen c.data.length < 2 ^ 32) (ctl : Mem) :
    D.xAncillaryMsgControlFill (some ctl) cs =
      ⟨true, some (ctl.writeAll (D.packedFields 0 cs)), D.totalSpace cs, D.packedFields 0 cs⟩ := by
  have hpack : D.prvPackControl (D.totalSpace cs) ctl (cmsgFirstHdr (D.totalSpace cs)) cs =
      (true, D.packedFields 0 cs) := by
    cases cs with
    | nil => rfl
    | cons c cs =>
        rw [cmsgFirstHdr_eq (List.cons_ne_nil c cs)]
        exact prvPackControl_eq hlen (Nat.zero_add _).le htotal
  simp [xAncillaryMsgControlFill, uxTotalSpace_eq htotal, hpack]

/-- No length is too much for a `socklen_t` if the sum of all is not. -/
theorem cmsgLen_lt_of_total (h : D.totalSpace cs < 2 ^ 32) : ∀ c ∈ cs, D.cmsgLen c.data.length < 2 ^ 32 := by
  intro c hc
  have hspace := (space_le hc).trans_lt h
  exact (cmsgLen_le (hspace.trans_le D.two_pow_le)).trans_lt hspace

/-! ## Control data that was cut -/

theorem noneCut_cons {n : Nat} : D.NoneCut n off (c :: cs) ↔
    (off + cmsghdrSize ≤ n → off + D.cmsgLen c.data.length ≤ n ∧
      off + D.space c + cmsghdrSize < 2 ^ (8 * D.sizeofLong)) ∧ D.NoneCut n (off + D.space c) cs := by
  simp [NoneCut, offsets]

/-- Behind the first header without room there is none with room. -/
theorem noneCut_of_lt {n : Nat} (h : n < off + cmsghdrSize) : D.NoneCut n off cs := by
  induction cs generalizing off with
  | nil => simp [NoneCut]
  | cons c cs ih =>
      rw [noneCut_cons]
      exact ⟨fun hle => absurd hle (by omega), ih (by omega)⟩

/-- The walk goes on as long as there are headers with room, and to the end only if nothing wraps. -/
theorem walk_whole_iff {n : Nat} (hoff : off + D.totalSpace cs = size) (hn : n ≤ size)
    (hsize : size < 2 ^ (8 * D.sizeofLong))
    (hhead : List.Forall₂ (fun c cmsg => cmsg + cmsghdrSize ≤ n → D.HeaderOf ctl c cmsg) cs (D.offsets off cs)) :
    (∃ l k, Walk (D.cmsgNxtHdr ctl n) (if off + cmsghdrSize ≤ n then some off else none) l ∧
      List.Forall₂ (fun c cmsg => D.HeaderOf ctl c cmsg ∧ cmsg + D.cmsgLen c.data.length ≤ n) (cs.take k) l) ↔
      D.NoneCut n off cs := by
  have hbits : 2 ^ (8 * D.sizeofLong) ≤ 2 ^ D.sizeBits := Nat.pow_le_pow_right (by omega) D.sizeBits_ge
  induction cs generalizing off with
  | nil =>
      have hend : ¬off + cmsghdrSize ≤ n := by
        simp only [totalSpace_nil, cmsghdrSize] at hoff ⊢
        omega
      rw [if_neg hend]
      exact ⟨fun _ => noneCut_of_lt (by omega), fun _ => ⟨[], 0, .here none, .nil⟩⟩
  | cons c cs ih =>
      by_cases hkeep : off + cmsghdrSize ≤ n
      · rw [totalSpace_cons] at hoff
        obtain ⟨hc, hrest⟩ := List.forall₂_cons.mp hhead
        rw [if_pos hkeep, noneCut_cons]
        by_cases hroom : off + D.space c + cmsghdrSize < 2 ^ (8 * D.sizeofLong)
        · have hih := ih (by omega) hrest
          rw [← (hc hkeep).cmsgNxtHdr_of_room (by omega) hroom n] at hih
          constructor
          · rintro ⟨l, k, hw, hf⟩
            obtain ⟨r, rfl, hr⟩ := Walk.some_iff.mp hw
            cases k with
            | zero => exact nomatch hf
            | succ k =>
                obtain ⟨hmsg, hf⟩ := List.forall₂_cons.mp hf
                exact ⟨fun _ => ⟨hmsg.2, hroom⟩, hih.mp ⟨r, k, hr, hf⟩⟩
          · rintro ⟨hwhole, hcut⟩
            obtain ⟨r, k, hr, hf⟩ := hih.mpr hcut
            exact ⟨off :: r, k + 1, Walk.some_iff.mpr ⟨r, rfl, hr⟩, .cons ⟨hc hkeep, (hwhole hkeep).1⟩ hf⟩
        · -- only behind the last message can the end of a header wrap, and then the walk goes on there
          have hlast : cs = [] := by
            by_contra hne
            have h12 := D.le_totalSpace hne
            omega
          subst hlast
          rw [totalSpace_nil] at hoff
          have hgoes := (hc hkeep).cmsgNxtHdr_of_wrap (n := n) (by omega) (by omega) (by omega) (by omega)
          constructor
          · rintro ⟨l, k, hw, hf⟩
            obtain ⟨r, rfl, hr⟩ := Walk.some_iff.mp hw
            rw [hgoes] at hr
            obtain ⟨r', rfl, -⟩ := Walk.some_iff.mp hr
            have hcount := hf.length_eq
            simp only [List.length_take, List.length_cons, List.length_nil] at hcount
            omega
          · rintro ⟨hwhole, -⟩
            exact absurd (hwhole hkeep).2 hroom
      · rw [if_neg hkeep]
        exact ⟨fun _ => noneCut_of_lt (by omega), fun _ => ⟨[], 0, .here none, .nil⟩⟩

/-- The length of a header is read from 32 bits. -/
theorem RoundTrips.cmsgLen_lt (h : D.RoundTrips cs) : ∀ c ∈ cs, D.cmsgLen c.data.length < 2 ^ 32 := by
  obtain ⟨-, -, ctl, l, -, -, hmsgs⟩ := h.packed fun _ => 0
  clear h
  induction hmsgs with
  | nil => simp
  | @cons c off cs l hmsg hmsgs ih =>
      rw [List.forall_mem_cons, ← hmsg.cmsgLen]
      exact ⟨UInt32.toNat_lt _, ih⟩

end FreeRtosTsn.Packet.DataModel
