import FreeRtosTsn.Fields.Lemmas.Tags

/-!
# What the accessors of the class do

Where the code looks for the class of a frame, and the bits that it reads and writes there.
-/

namespace FreeRtosTsn.Fields

open Lib Kernel Packet

/-! ## Bytes -/

/-- `ucVersionTrafficClass` and `ucTrafficClassFlow` after `diffservSET_DSCLASS_IPv6`. -/
def versionWith (x v : UInt8) : UInt8 := (x &&& 0xF0) ||| ((v &&& 0x3C) >>> (2 : UInt8))
def flowWith (y v : UInt8) : UInt8 := (y &&& 0x3F) ||| ((v &&& 0x3) <<< (6 : UInt8))

section Bytes

variable {x y v : UInt8}

theorem high_nibble_toNat (x : UInt8) : (x &&& 0xF0).toNat = 16 * (x.toNat / 16) := by
  have hall : ∀ n < 256, n &&& 0xF0 = 16 * (n / 16) := by decide +kernel
  exact hall x.toNat x.toNat_lt

theorem high_bits_toNat (y : UInt8) : ((y &&& 0xC0) >>> 6).toNat = y.toNat / 64 := by
  have hall : ∀ n < 256, (n &&& 0xC0) >>> 6 = n / 64 := by decide +kernel
  exact hall y.toNat y.toNat_lt

theorem low_nibble_toNat (x : UInt8) : ((x &&& 0xF) <<< 2).toNat = 4 * (x.toNat % 16) := by
  have hall : ∀ n < 256, (n &&& 0xF) <<< 2 % 256 = 4 * (n % 16) := by decide +kernel
  exact hall x.toNat x.toNat_lt

/-- The two parts of a class, as they stand in the two bytes of IPv6. -/
theorem class_parts (hv : v < 64) :
    ((v &&& 0x3C) >>> 2).toNat = v.toNat / 4 ∧ ((v &&& 0x3) <<< 6).toNat = 64 * (v.toNat % 4) := by
  have hall : ∀ n < 64, (n &&& 0x3C) >>> 2 = n / 4 ∧ (n &&& 0x3) <<< 6 % 256 = 64 * (n % 4) := by decide +kernel
  exact hall v.toNat hv

theorem low_bits_toNat (y : UInt8) : (y &&& 0x3F).toNat = y.toNat % 64 := by
  rw [UInt8.toNat_and]
  exact Nat.and_two_pow_sub_one_eq_mod y.toNat 6

/-- Two parts that share no bit. -/
theorem or_toNat {a n : Nat} (hx : x.toNat = 2 ^ n * a) (hy : y.toNat < 2 ^ n) : (x ||| y).toNat = 2 ^ n * a + y.toNat := by
  rw [UInt8.toNat_or, hx, Nat.mul_comm, ← Nat.shiftLeft_eq, Nat.shiftLeft_add_eq_or_of_lt hy]

theorem diffservGetDsClassIPv6_toNat (x y : UInt8) :
    (diffservGetDsClassIPv6 x y).toNat = 4 * (x.toNat % 16) + y.toNat / 64 := by
  have hlow : ((y &&& 0xC0) >>> 6).toNat < 2 ^ 2 := by
    have := y.toNat_lt
    rw [high_bits_toNat]
    omega
  rw [diffservGetDsClassIPv6, or_toNat (n := 2) (low_nibble_toNat x) hlow, high_bits_toNat]
  rfl

theorem diffservGetDsClassIPv4_toNat (x : UInt8) : (diffservGetDsClassIPv4 x).toNat = x.toNat / 4 := by
  rw [diffservGetDsClassIPv4, UInt8.toNat_shiftRight]
  exact Nat.shiftRight_eq_div_pow x.toNat 2

theorem diffservSetDsClassIPv4_toNat (hv : v < 64) : (diffservSetDsClassIPv4 v).toNat = 4 * v.toNat := by
  have hall : ∀ n < 64, n <<< 2 % 256 = 4 * n := by decide +kernel
  exact hall v.toNat hv

theorem versionWith_toNat (hv : v < 64) (x : UInt8) : (versionWith x v).toNat = 16 * (x.toNat / 16) + v.toNat / 4 := by
  obtain ⟨hhigh, -⟩ := class_parts hv
  have hlt : ((v &&& 0x3C) >>> 2).toNat < 2 ^ 4 := by
    have : v.toNat < 64 := hv
    omega
  rw [versionWith, or_toNat (n := 4) (high_nibble_toNat x) hlt, hhigh]
  rfl

theorem flowWith_toNat (hv : v < 64) (y : UInt8) : (flowWith y v).toNat = 64 * (v.toNat % 4) + y.toNat % 64 := by
  obtain ⟨-, hlow⟩ := class_parts hv
  have hlt : (y &&& 0x3F).toNat < 2 ^ 6 := by
    rw [low_bits_toNat]
    omega
  rw [flowWith, UInt8.or_comm, or_toNat (n := 6) hlow hlt, low_bits_toNat]
  rfl

end Bytes

/-! ## Bits -/

section Bits

variable {m m' : Mem} {o : Nat} {v : UInt8}

theorem diffservGetDsClassIPv4_field (m : Mem) (o : Nat) :
    diffservGetDsClassIPv4 (m (o + 1)) = UInt8.ofNat (m.field (8 * (o + 1)) 6) := by
  have hfield := Mem.field_byte (p := 0) (n := 6) (by omega) m (o + 1)
  have := (m (o + 1)).toNat_lt
  apply UInt8.toNat.inj
  rw [← Nat.add_zero (8 * (o + 1)), hfield, diffservGetDsClassIPv4_toNat, UInt8.toNat_ofNat']
  omega

theorem diffservGetDsClassIPv6_field (m : Mem) (o : Nat) :
    diffservGetDsClassIPv6 (m o) (m (o + 1)) = UInt8.ofNat (m.field (8 * o + 4) 6) := by
  have hhigh := Mem.field_byte (p := 4) (n := 4) (by omega) m o
  have hlow := Mem.field_byte (p := 0) (n := 2) (by omega) m (o + 1)
  have := (m o).toNat_lt
  have := (m (o + 1)).toNat_lt
  apply UInt8.toNat.inj
  rw [Mem.field_add m (8 * o + 4) 4 2, show 8 * o + 4 + 4 = 8 * (o + 1) + 0 by omega, hhigh, hlow,
    diffservGetDsClassIPv6_toNat, UInt8.toNat_ofNat']
  omega

theorem read_written_ipv4 (hv : v < 64) : diffservGetDsClassIPv4 (diffservSetDsClassIPv4 v) = v := by
  apply UInt8.toNat.inj
  rw [diffservGetDsClassIPv4_toNat, diffservSetDsClassIPv4_toNat hv]
  omega

theorem read_written_ipv6 (hv : v < 64) (x y : UInt8) : diffservGetDsClassIPv6 (versionWith x v) (flowWith y v) = v := by
  have : v.toNat < 64 := hv
  apply UInt8.toNat.inj
  rw [diffservGetDsClassIPv6_toNat, versionWith_toNat hv, flowWith_toNat hv]
  omega

/-- The bits behind the class are cleared. -/
theorem agreeOff_written_ipv4 (hv : v < 64) (m : Mem) (o : Nat) :
    Mem.AgreeOff (8 * (o + 1)) 6 m (Function.update m (o + 1) (diffservSetDsClassIPv4 v)) ↔
      m.field (8 * (o + 1) + 6) 2 = 0 := by
  have hfield := fun m' : Mem => Mem.field_byte (p := 6) (n := 2) (by omega) m' (o + 1)
  have hbyte : (Function.update m (o + 1) (diffservSetDsClassIPv4 v) (o + 1)).toNat = 4 * v.toNat := by
    rw [Function.update_self, diffservSetDsClassIPv4_toNat hv]
  constructor
  · intro h
    rw [← h.field (Or.inr (Nat.le_refl _)), hfield, hbyte]
    omega
  · intro h
    rw [hfield] at h
    rw [← Nat.add_zero (8 * (o + 1))]
    apply Mem.agreeOff_byte fun i hi => Function.update_of_ne hi _ _
    · have := (m (o + 1)).toNat_lt
      have : v.toNat < 64 := hv
      rw [hbyte]
      omega
    · rw [hbyte]
      omega

theorem agreeOff_written_ipv6 (hv : v < 64) (m : Mem) (o : Nat) :
    Mem.AgreeOff (8 * o + 4) 6 m
      (Function.update (Function.update m o (versionWith (m o) v)) (o + 1) (flowWith (m (o + 1)) v)) := by
  have : v.toNat < 64 := hv
  have hversion : Mem.AgreeOff (8 * o + 4) 4 m (Function.update m o (versionWith (m o) v)) := by
    apply Mem.agreeOff_byte fun i hi => Function.update_of_ne hi _ _
    · rw [Function.update_self, versionWith_toNat hv]
      omega
    · omega
  have hflow : ∀ m' : Mem, m' (o + 1) = m (o + 1) →
      Mem.AgreeOff (8 * (o + 1) + 0) 2 m' (Function.update m' (o + 1) (flowWith (m (o + 1)) v)) := by
    intro m' hm'
    apply Mem.agreeOff_byte fun i hi => Function.update_of_ne hi _ _
    · have := (m (o + 1)).toNat_lt
      rw [Function.update_self, flowWith_toNat hv, hm']
      omega
    · rw [Function.update_self, flowWith_toNat hv, hm']
      omega
  exact hversion.trans (hflow _ (Function.update_of_ne (by omega) _ _)) (by omega)

end Bits

/-! ## Reading and writing -/

/-- The type that the code takes for the network's, and the offset that it takes for the network header's. -/
def seen (m : Mem) (usStack : UInt16) : UInt16 × Nat :=
  if etherTypeAt m 12 = 0x88a8 then (m.load16 20, 22)
  else if etherTypeAt m 12 = 0x8100 then (m.load16 16, 18)
  else (usStack, 14)

/-- What `ucDSClassGet` returns for the type and the offset `s`. -/
def classRead (m : Mem) (s : UInt16 × Nat) : UInt8 :=
  if s.1 = ipIPv4FrameType then diffservGetDsClassIPv4 (m (s.2 + 1))
  else if s.1 = ipIPv6FrameType then diffservGetDsClassIPv6 (m s.2) (m (s.2 + 1))
  else 0xFF

/-- The bytes after `xDSClassSet` for the type and the offset `s`. -/
def classWritten (m : Mem) (s : UInt16 × Nat) (v : UInt8) : Mem :=
  if s.1 = ipIPv4FrameType then Function.update m (s.2 + 1) (diffservSetDsClassIPv4 v)
  else if s.1 = ipIPv6FrameType then
    Function.update (Function.update m s.2 (versionWith (m s.2) v)) (s.2 + 1) (flowWith (m (s.2 + 1)) v)
  else m

section Run

variable {w : World} {b : BufId}

theorem run_prvGetIPVersionAndOffset (hp : (w.bufs b).pucEthernetBuffer = .eth b 0) (usStack : UInt16) :
    ∃ w', (prvGetIPVersionAndOffset b usStack).run w = .ok (seen (w.mem b) usStack) w' ∧ Reads w w' := by
  have hdouble : swap16 ((w.mem b).load16 12) = vlantagTpidDoubleTag ↔ etherTypeAt (w.mem b) 12 = 0x88a8 :=
    swap16_load16_eq_iff _ 12 vlantagTpidDoubleTag
  have hdefault : swap16 ((w.mem b).load16 12) = vlantagTpidDefault ↔ etherTypeAt (w.mem b) 12 = 0x8100 :=
    swap16_load16_eq_iff _ 12 vlantagTpidDefault
  simp -implicitDefEqProofs only [prvGetIPVersionAndOffset, EStateM.run_bind, run_loadBuf, hp, run_load16, ethFrameType,
    Nat.zero_add, hdouble, hdefault, seen]
  split
  · exact ⟨_, rfl, ⟨rfl⟩⟩
  · split
    · exact ⟨_, rfl, ⟨rfl⟩⟩
    · exact ⟨_, rfl, ⟨rfl⟩⟩

theorem ucDSClassGet_returns (hp : (w.bufs b).pucEthernetBuffer = .eth b 0) (usStack : UInt16) :
    Returns (ucDSClassGet usStack b) w (classRead (w.mem b) (seen (w.mem b) usStack)) := by
  obtain ⟨w₁, hrun, hreads⟩ := run_prvGetIPVersionAndOffset hp usStack
  have hp₁ : (w₁.bufs b).pucEthernetBuffer = .eth b 0 := by rw [hreads.bufs, hp]
  rw [Returns, ucDSClassGet, run_bind_ok hrun, classRead, ← hreads.mem]
  simp only [EStateM.run_bind, run_loadBuf, hp₁]
  split
  · exact ⟨_, by simp; rfl⟩
  · split
    · exact ⟨_, by simp; rfl⟩
    · exact ⟨_, rfl⟩

theorem run_diffservSetDsClassIPv6 (o : Nat) (v : UInt8) :
    ∃ w', (diffservSetDsClassIPv6 (.eth b 0) o v).run w = .ok () w' ∧ w'.bufs = w.bufs ∧
      w'.mem b = Function.update (Function.update (w.mem b) o (versionWith (w.mem b o) v)) (o + 1)
        (flowWith (w.mem b (o + 1)) v) := by
  simp -implicitDefEqProofs [diffservSetDsClassIPv6, Mem.write_one, versionWith, flowWith]

theorem run_xDSClassSet (hp : (w.bufs b).pucEthernetBuffer = .eth b 0) (usStack : UInt16) (v : UInt8) :
    ∃ r w', (xDSClassSet usStack b v).run w = .ok r w' ∧ w'.bufs = w.bufs ∧
      w'.mem b = classWritten (w.mem b) (seen (w.mem b) usStack) v ∧
      (r = true ↔ (seen (w.mem b) usStack).1 = ipIPv4FrameType ∨ (seen (w.mem b) usStack).1 = ipIPv6FrameType) := by
  obtain ⟨w₁, hrun, hreads⟩ := run_prvGetIPVersionAndOffset hp usStack
  have hp₁ : (w₁.bufs b).pucEthernetBuffer = .eth b 0 := by rw [hreads.bufs, hp]
  rw [xDSClassSet, run_bind_ok hrun, classWritten, ← hreads.mem, ← hreads.bufs]
  simp only [EStateM.run_bind, run_loadBuf, hp₁]
  generalize seen (w₁.mem b) usStack = s
  by_cases h4 : s.1 = ipIPv4FrameType
  · simp [h4, Mem.write_one]
  · by_cases h6 : s.1 = ipIPv6FrameType
    · obtain ⟨w₂, hset, hbufs, hmem⟩ := run_diffservSetDsClassIPv6 (w := w₁) (b := b) s.2 v
      refine ⟨true, w₂, ?_, hbufs, ?_, by simp [h6]⟩
      · rw [if_neg h4, if_pos h6]
        exact run_bind_ok hset
      · rw [hmem, if_neg h4, if_pos h6]
    · exact ⟨false, w₁, by rw [if_neg h4, if_neg h6]; rfl, rfl, by rw [if_neg h4, if_neg h6], by simp [h4, h6]⟩

/-- What a call of `xDSClassSet` that ended did. -/
theorem xDSClassSet_inv (hp : (w.bufs b).pucEthernetBuffer = .eth b 0) {usStack : UInt16} {v : UInt8} {r : Bool}
    {w' : World} (hrun : (xDSClassSet usStack b v).run w = .ok r w') :
    w'.bufs = w.bufs ∧ w'.mem b = classWritten (w.mem b) (seen (w.mem b) usStack) v ∧
      (r = true ↔ (seen (w.mem b) usStack).1 = ipIPv4FrameType ∨ (seen (w.mem b) usStack).1 = ipIPv6FrameType) := by
  obtain ⟨r', w'', hrun', h⟩ := run_xDSClassSet hp usStack v
  rw [hrun'] at hrun
  cases hrun
  exact h

/-- Neither type is seen. -/
theorem class_of_other (hp : (w.bufs b).pucEthernetBuffer = .eth b 0) {usStack : UInt16}
    (h4 : (seen (w.mem b) usStack).1 ≠ ipIPv4FrameType) (h6 : (seen (w.mem b) usStack).1 ≠ ipIPv6FrameType) (v : UInt8) :
    (∃ w', (xDSClassSet usStack b v).run w = .ok false w' ∧ w'.mem b = w.mem b ∧ w'.bufs = w.bufs) ∧
      Returns (ucDSClassGet usStack b) w 0xFF := by
  obtain ⟨r, w', hrun, hbufs, hmem, hr⟩ := run_xDSClassSet hp usStack v
  have hfalse : r = false := by
    rw [← Bool.not_eq_true, hr]
    exact not_or.mpr ⟨h4, h6⟩
  have hget := ucDSClassGet_returns hp usStack
  rw [classRead, if_neg h4, if_neg h6] at hget
  rw [classWritten, if_neg h4, if_neg h6] at hmem
  exact ⟨⟨w', hfalse ▸ hrun, hmem, hbufs⟩, hget⟩

end Run

/-! ## Shapes -/

section Shapes

variable {m m' : Mem}

theorem seen_untagged (h : Untagged m) (usStack : UInt16) : seen m usStack = (usStack, 14) := by
  rw [seen, if_neg h.2, if_neg h.1]

theorem seen_service (h : ServiceTagged m) (usStack : UInt16) : seen m usStack = (m.load16 20, 22) := by
  rw [seen, if_pos h.1]

/-- Behind a customer tag the code looks in the right place. -/
theorem seen_tagged (h : ¬Untagged m) (hs : ¬ServiceTagged m) (usStack : UInt16) :
    seen m usStack = (m.load16 (12 + 4 * uxTagsOf m), networkPlace m) := by
  by_cases hsingle : etherTypeAt m 12 = 0x8100
  · simp [seen, networkPlace, uxTagsOf, tciPlace, hsingle]
  · have hdouble : etherTypeAt m 12 = 0x88a8 := by
      by_contra hne
      exact h ⟨hsingle, hne⟩
    have hinner : etherTypeAt m 16 = 0x8100 := by
      by_contra hne
      exact hs ⟨hdouble, hne⟩
    simp [seen, networkPlace, uxTagsOf, tciPlace, hdouble, hinner]

theorem seen_ipv4_iff (h : ¬Untagged m) (hs : ¬ServiceTagged m) (usStack : UInt16) :
    (seen m usStack).1 = ipIPv4FrameType ↔ CarriesIPv4 m := by
  rw [seen_tagged h hs, load16_eq_iff]
  rfl

theorem seen_ipv6_iff (h : ¬Untagged m) (hs : ¬ServiceTagged m) (usStack : UInt16) :
    (seen m usStack).1 = ipIPv6FrameType ↔ CarriesIPv6 m := by
  rw [seen_tagged h hs, load16_eq_iff]
  rfl

/-- The tags and the type that the code reads are in front of the place it finds. -/
theorem seen_congr (h : ¬Untagged m) {usStack usStack' : UInt16} (hmem : ∀ i < (seen m usStack).2, m' i = m i) :
    seen m' usStack' = seen m usStack := by
  have htype : 14 ≤ (seen m usStack).2 → etherTypeAt m' 12 = etherTypeAt m 12 := fun hle =>
    etherTypeAt_congr (hmem 12 (by omega)) (hmem 13 (by omega))
  by_cases hdouble : etherTypeAt m 12 = 0x88a8
  · simp only [seen, if_pos hdouble] at hmem htype ⊢
    rw [if_pos ((htype (by omega)).trans hdouble), Mem.load16_congr fun i hi => hmem (20 + i) (by omega)]
  · have hsingle : etherTypeAt m 12 = 0x8100 := by
      by_contra hne
      exact h ⟨hne, hdouble⟩
    simp only [seen, if_neg hdouble, if_pos hsingle] at hmem htype ⊢
    rw [htype (by omega), if_neg hdouble, if_pos hsingle, Mem.load16_congr fun i hi => hmem (16 + i) (by omega)]

theorem dscpStart_ipv4 (h : CarriesIPv4 m) : dscpStart m = 8 * (networkPlace m + 1) := if_pos h

theorem dscpStart_other (h : ¬CarriesIPv4 m) : dscpStart m = 8 * networkPlace m + 4 := if_neg h

/-- The class that is read where the code looks for it. -/
theorem classRead_seen (h : ¬Untagged m) (hs : ¬ServiceTagged m) (hip : CarriesIPv4 m ∨ CarriesIPv6 m)
    (usStack : UInt16) : classRead m (seen m usStack) = UInt8.ofNat (dscpOf m) := by
  have hplace : (seen m usStack).2 = networkPlace m := by rw [seen_tagged h hs]
  rw [classRead, hplace, dscpOf]
  by_cases h4 : CarriesIPv4 m
  · rw [if_pos ((seen_ipv4_iff h hs usStack).mpr h4), dscpStart_ipv4 h4]
    exact diffservGetDsClassIPv4_field m (networkPlace m)
  · have h6 := hip.resolve_left h4
    rw [if_neg (mt (seen_ipv4_iff h hs usStack).mp h4), if_pos ((seen_ipv6_iff h hs usStack).mpr h6),
      dscpStart_other h4]
    exact diffservGetDsClassIPv6_field m (networkPlace m)

/-- A class that was written is read back, and for IPv4 nothing else changed if ECN was not used. -/
theorem classWritten_seen (h : ¬Untagged m) (hs : ¬ServiceTagged m) (hip : CarriesIPv4 m ∨ CarriesIPv6 m)
    (usStack usStack' : UInt16) {v : UInt8} (hv : v < 64) :
    classRead (classWritten m (seen m usStack) v) (seen (classWritten m (seen m usStack) v) usStack') = v ∧
      (Mem.AgreeOff (dscpStart m) 6 m (classWritten m (seen m usStack) v) ↔ (CarriesIPv4 m → ecnOf m = 0)) := by
  have hplace : (seen m usStack).2 = networkPlace m := by rw [seen_tagged h hs]
  by_cases h4 : CarriesIPv4 m
  · have ht := (seen_ipv4_iff h hs usStack).mpr h4
    have hm : classWritten m (seen m usStack) v =
        Function.update m (networkPlace m + 1) (diffservSetDsClassIPv4 v) := by
      rw [classWritten, if_pos ht, hplace]
    have hseen : seen (classWritten m (seen m usStack) v) usStack' = seen m usStack := by
      apply seen_congr h
      intro i hi
      rw [hm, Function.update_of_ne (by omega)]
    constructor
    · rw [hseen, classRead, if_pos ht, hm, hplace, Function.update_self, read_written_ipv4 hv]
    · rw [hm, dscpStart_ipv4 h4, agreeOff_written_ipv4 hv]
      exact ⟨fun hecn _ => hecn, fun hecn => hecn h4⟩
  · have h6 := hip.resolve_left h4
    have ht := (seen_ipv6_iff h hs usStack).mpr h6
    have hnt := mt (seen_ipv4_iff h hs usStack).mp h4
    have hm : classWritten m (seen m usStack) v =
        Function.update (Function.update m (networkPlace m) (versionWith (m (networkPlace m)) v)) (networkPlace m + 1)
          (flowWith (m (networkPlace m + 1)) v) := by
      rw [classWritten, if_neg hnt, if_pos ht, hplace]
    have hseen : seen (classWritten m (seen m usStack) v) usStack' = seen m usStack := by
      apply seen_congr h
      intro i hi
      rw [hm, Function.update_of_ne (by omega), Function.update_of_ne (by omega)]
    constructor
    · rw [hseen, classRead, if_neg hnt, if_pos ht, hm, hplace, Function.update_self, Function.update_of_ne (by omega),
        Function.update_self, read_written_ipv6 hv]
    · rw [hm, dscpStart_other h4]
      exact ⟨fun _ h4' => absurd h4' h4, fun _ => agreeOff_written_ipv6 hv m (networkPlace m)⟩

end Shapes

/-! ## The laws -/

section Laws

variable {w : World} {b : BufId}

theorem not_classLaws_of_untagged (hp : (w.bufs b).pucEthernetBuffer = .eth b 0) (h : Untagged (w.mem b)) :
    ¬DSClassLaws w b := by
  intro hlaws
  have hservice : ¬ServiceTagged (w.mem b) := fun hs => h.2 hs.1
  by_cases hip : CarriesIPv4 (w.mem b) ∨ CarriesIPv6 (w.mem b)
  · -- The stack holds neither type.
    obtain ⟨w', hrun, -⟩ := hlaws.set hservice hip 0 (by decide) 0
    have hseen := (xDSClassSet_inv hp hrun).2.2.mp rfl
    rw [seen_untagged h] at hseen
    exact absurd hseen (by decide)
  · -- The stack holds the type of IPv4.
    obtain ⟨h4, h6⟩ := not_or.mp hip
    obtain ⟨⟨w', hrun, -⟩, -⟩ := hlaws.other h4 h6 0 ipIPv4FrameType
    have hseen := (xDSClassSet_inv hp hrun).2.2
    rw [seen_untagged h] at hseen
    exact absurd (hseen.mpr (Or.inl rfl)) Bool.false_ne_true

theorem classLaws_of_service (hp : (w.bufs b).pucEthernetBuffer = .eth b 0) (h : ServiceTagged (w.mem b)) :
    DSClassLaws w b ↔ (¬CarriesIPv4 (w.mem b) → ¬CarriesIPv6 (w.mem b) →
      etherTypeAt (w.mem b) 20 ≠ 0x0800 ∧ etherTypeAt (w.mem b) 20 ≠ 0x86DD) := by
  have h4 : ∀ usStack, (seen (w.mem b) usStack).1 = ipIPv4FrameType ↔ etherTypeAt (w.mem b) 20 = 0x0800 := by
    intro usStack
    rw [seen_service h]
    exact load16_eq_iff _ 20 ipIPv4FrameType
  have h6 : ∀ usStack, (seen (w.mem b) usStack).1 = ipIPv6FrameType ↔ etherTypeAt (w.mem b) 20 = 0x86DD := by
    intro usStack
    rw [seen_service h]
    exact load16_eq_iff _ 20 ipIPv6FrameType
  constructor
  · intro hlaws hn4 hn6
    obtain ⟨⟨w', hrun, -⟩, -⟩ := hlaws.other hn4 hn6 0 0
    have hseen := (xDSClassSet_inv hp hrun).2.2
    rw [h4, h6] at hseen
    exact not_or.mp fun hip => Bool.false_ne_true (hseen.mpr hip)
  · intro hother
    refine ⟨fun hn => absurd h hn, fun hn => absurd h hn, ?_⟩
    intro hn4 hn6 v usStack
    obtain ⟨ho4, ho6⟩ := hother hn4 hn6
    exact class_of_other hp (mt (h4 usStack).mp ho4) (mt (h6 usStack).mp ho6) v

theorem classLaws_of_tagged (hp : (w.bufs b).pucEthernetBuffer = .eth b 0) (h : ¬Untagged (w.mem b))
    (hs : ¬ServiceTagged (w.mem b)) : DSClassLaws w b ↔ (CarriesIPv4 (w.mem b) → ecnOf (w.mem b) = 0) := by
  constructor
  · intro hlaws h4
    obtain ⟨w', hrun, -, hagree, -⟩ := hlaws.set hs (Or.inl h4) 0 (by decide) 0
    rw [(xDSClassSet_inv hp hrun).2.1] at hagree
    exact (classWritten_seen h hs (Or.inl h4) 0 0 (by decide)).2.mp hagree h4
  · intro hecn
    refine ⟨?_, ?_, ?_⟩
    · intro _ hip v hv usStack
      obtain ⟨r, w', hrun, hbufs, hmem, hr⟩ := run_xDSClassSet hp usStack v
      have htrue : r = true := by
        rw [hr, seen_ipv4_iff h hs, seen_ipv6_iff h hs]
        exact hip
      have hp' : (w'.bufs b).pucEthernetBuffer = .eth b 0 := by rw [hbufs, hp]
      refine ⟨w', htrue ▸ hrun, ?_, ?_, hbufs⟩
      · intro usStack'
        have hget := ucDSClassGet_returns hp' usStack'
        rwa [hmem, (classWritten_seen h hs hip usStack usStack' hv).1] at hget
      · rw [hmem]
        exact (classWritten_seen h hs hip usStack usStack hv).2.mpr hecn
    · intro _ hip usStack
      rw [← classRead_seen h hs hip usStack]
      exact ucDSClassGet_returns hp usStack
    · intro hn4 hn6 v usStack
      exact class_of_other hp (mt (seen_ipv4_iff h hs usStack).mp hn4) (mt (seen_ipv6_iff h hs usStack).mp hn6) v

end Laws

end FreeRtosTsn.Fields
