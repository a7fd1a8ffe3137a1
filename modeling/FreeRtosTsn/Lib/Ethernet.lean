import Mathlib.Algebra.BigOperators.Group.List.Basic

/-!
# UDP over IPv4 over Ethernet

A reference parser for frames with any number of 802.1Q tags, IPv4 headers without options, and UDP. It does not look
at checksums. Numbers are big-endian on the wire.
-/

namespace FreeRtosTsn.Lib.Ethernet

/-- The number in two bytes. -/
def number (a b : UInt8) : Nat := 256 * a.toNat + b.toNat

def numberBytes (n : Nat) : List UInt8 := [UInt8.ofNat (n / 256), UInt8.ofNat n]

theorem number_bytes {n : Nat} (h : n < 2 ^ 16) : number (UInt8.ofNat (n / 256)) (UInt8.ofNat n) = n := by
  simp only [number, UInt8.toNat_ofNat']
  omega

structure Tag where
  tpid : Nat
  tci : Nat
  deriving DecidableEq, Repr

/-- The types of a customer and of a service tag. -/
def isTag (tpid : Nat) : Bool := tpid == 0x8100 || tpid == 0x88a8

def Tag.bytes (t : Tag) : List UInt8 := numberBytes t.tpid ++ numberBytes t.tci

structure Tag.Valid (t : Tag) : Prop where
  tpid : isTag t.tpid = true
  tci : t.tci < 2 ^ 16

structure Frame where
  destinationMac : List UInt8
  sourceMac : List UInt8
  tags : List Tag
  dscp : Nat
  ecn : Nat
  totalLength : Nat
  identification : Nat
  fragment : Nat
  ttl : UInt8
  headerChecksum : Nat
  sourceAddress : List UInt8
  destinationAddress : List UInt8
  sourcePort : Nat
  destinationPort : Nat
  udpLength : Nat
  udpChecksum : Nat
  payload : List UInt8
  deriving DecidableEq, Repr

/-! ## Parsing -/

/-- The tags in front of the frame type, and what follows them. -/
def parseTags : List UInt8 → List Tag × List UInt8
  | a :: b :: c :: d :: bs =>
      if isTag (number a b) then
        (⟨number a b, number c d⟩ :: (parseTags bs).1, (parseTags bs).2)
      else ([], a :: b :: c :: d :: bs)
  | bs => ([], bs)

/-- The two bytes at `i`. -/
def numberAt (bs : List UInt8) (i : Nat) : Nat := number (bs.getD i 0) (bs.getD (i + 1) 0)

/-- The frame, and the bytes behind its packet. -/
def parse (bs : List UInt8) : Option (Frame × List UInt8) :=
  let (tags, network) := parseTags (bs.drop 12)
  let ip := network.drop 2
  let udp := ip.drop 20
  if 12 ≤ bs.length ∧ 30 ≤ network.length ∧ numberAt network 0 = 0x0800 ∧ ip.getD 0 0 = 0x45 ∧
      numberAt ip 6 % 2 ^ 14 = 0 ∧ ip.getD 9 0 = 17 ∧ numberAt ip 2 ≤ ip.length ∧ 8 ≤ numberAt udp 4 ∧
      numberAt udp 4 + 20 ≤ numberAt ip 2 then
    some (⟨bs.take 6, (bs.drop 6).take 6, tags, (ip.getD 1 0).toNat / 4, (ip.getD 1 0).toNat % 4, numberAt ip 2,
      numberAt ip 4, numberAt ip 6, ip.getD 8 0, numberAt ip 10, (ip.drop 12).take 4, (ip.drop 16).take 4,
      numberAt udp 0, numberAt udp 2, numberAt udp 4, numberAt udp 6, (udp.drop 8).take (numberAt udp 4 - 8)⟩,
      ip.drop (numberAt ip 2))
  else none

/-! ## Round trip -/

namespace Frame

variable (f : Frame)

def networkBytes : List UInt8 :=
  [0x08, 0x00, 0x45, UInt8.ofNat (4 * f.dscp + f.ecn)] ++ numberBytes f.totalLength ++ numberBytes f.identification ++
    numberBytes f.fragment ++ [f.ttl, 17] ++ numberBytes f.headerChecksum ++ f.sourceAddress ++ f.destinationAddress ++
    numberBytes f.sourcePort ++ numberBytes f.destinationPort ++ numberBytes f.udpLength ++ numberBytes f.udpChecksum ++
    f.payload

def bytes : List UInt8 := f.destinationMac ++ f.sourceMac ++ f.tags.flatMap Tag.bytes ++ f.networkBytes

/-- The parts have the sizes of their fields, and the lengths are right. -/
structure Valid : Prop where
  destinationMac : f.destinationMac.length = 6
  sourceMac : f.sourceMac.length = 6
  tags : ∀ t ∈ f.tags, t.Valid
  dscp : f.dscp < 64
  ecn : f.ecn < 4
  totalLength : f.totalLength = f.payload.length + 28
  small : f.totalLength < 2 ^ 16
  identification : f.identification < 2 ^ 16
  fragment : f.fragment < 2 ^ 16 ∧ f.fragment % 2 ^ 14 = 0
  headerChecksum : f.headerChecksum < 2 ^ 16
  sourceAddress : f.sourceAddress.length = 4
  destinationAddress : f.destinationAddress.length = 4
  sourcePort : f.sourcePort < 2 ^ 16
  destinationPort : f.destinationPort < 2 ^ 16
  udpLength : f.udpLength = f.payload.length + 8
  udpChecksum : f.udpChecksum < 2 ^ 16

end Frame

theorem isTag_lt {n : Nat} (h : isTag n = true) : n < 2 ^ 16 := by
  simp only [isTag, Bool.or_eq_true, beq_iff_eq] at h
  omega

/-- The tags end at a type that is none. -/
theorem parseTags_append {ts : List Tag} (hts : ∀ t ∈ ts, t.Valid) {a b : UInt8} (h : isTag (number a b) = false)
    (bs : List UInt8) : parseTags (ts.flatMap Tag.bytes ++ a :: b :: bs) = (ts, a :: b :: bs) := by
  induction ts with
  | nil =>
      rcases bs with _ | ⟨c, _ | ⟨d, bs⟩⟩
      · rfl
      · rfl
      · simp [parseTags, h]
  | cons t ts ih =>
      obtain ⟨htpid, htci⟩ := hts t List.mem_cons_self
      have hrest := ih fun t' ht' => hts t' (List.mem_cons_of_mem t ht')
      simp only [List.flatMap_cons, Tag.bytes, numberBytes, List.cons_append, List.nil_append, parseTags,
        number_bytes (isTag_lt htpid), number_bytes htci, htpid, if_true, hrest]

theorem length_eq_four {α : Type} {l : List α} (h : l.length = 4) : ∃ a b c d, l = [a, b, c, d] := by
  rcases l with _ | ⟨a, _ | ⟨b, _ | ⟨c, _ | ⟨d, _ | ⟨e, l⟩⟩⟩⟩⟩ <;> simp at h
  exact ⟨a, b, c, d, rfl⟩

theorem parse_bytes {f : Frame} (h : f.Valid) (trailer : List UInt8) : parse (f.bytes ++ trailer) = some (f, trailer) := by
  have hmacs : (f.destinationMac ++ f.sourceMac).length = 12 := by simp [h.destinationMac, h.sourceMac]
  have htags : parseTags ((f.bytes ++ trailer).drop 12) = (f.tags, f.networkBytes ++ trailer) := by
    rw [Frame.bytes, List.append_assoc, List.append_assoc, List.drop_left' hmacs]
    exact parseTags_append h.tags (by decide) _
  have hlen : 12 ≤ (f.bytes ++ trailer).length := by
    rw [Frame.bytes, List.append_assoc, List.append_assoc, List.length_append, hmacs]
    exact Nat.le_add_right _ _
  have hdst : (f.bytes ++ trailer).take 6 = f.destinationMac := by
    simp only [Frame.bytes, List.append_assoc]
    exact List.take_left' h.destinationMac
  have hsrc : ((f.bytes ++ trailer).drop 6).take 6 = f.sourceMac := by
    simp only [Frame.bytes, List.append_assoc]
    rw [List.drop_left' h.destinationMac, List.take_left' h.sourceMac]
  obtain ⟨s₀, s₁, s₂, s₃, hsa⟩ := length_eq_four h.sourceAddress
  obtain ⟨d₀, d₁, d₂, d₃, hda⟩ := length_eq_four h.destinationAddress
  have htos : (UInt8.ofNat (4 * f.dscp + f.ecn)).toNat = 4 * f.dscp + f.ecn := by
    have hdscp := h.dscp
    have hecn := h.ecn
    rw [UInt8.toNat_ofNat']
    omega
  have hul := h.udpLength
  have htl := h.totalLength
  have hsmall := h.small
  have hdscp : (4 * f.dscp + f.ecn) / 4 = f.dscp := by have hecn := h.ecn; omega
  have hecn : (4 * f.dscp + f.ecn) % 4 = f.ecn := by have hecn := h.ecn; omega
  rw [parse, htags]
  simp only [hdst, hsrc, Frame.networkBytes, numberBytes, hsa, hda, numberAt, List.cons_append, List.nil_append,
    List.drop_succ_cons, List.drop_zero, List.getD_cons_zero, List.getD_cons_succ,
    List.take_succ_cons, List.take_zero, List.length_cons, number_bytes hsmall,
    number_bytes h.identification, number_bytes h.fragment.1, number_bytes h.headerChecksum, number_bytes h.sourcePort,
    number_bytes h.destinationPort, number_bytes h.udpChecksum, number_bytes (show f.udpLength < 2 ^ 16 by omega),
    htos, hdscp, hecn]
  rw [if_pos ⟨hlen, by omega, by decide, trivial, h.fragment.2, trivial, by rw [List.length_append]; omega, by omega,
    by omega⟩, List.take_left' (by omega)]
  refine congrArg some (Prod.ext ?_ ?_)
  · rw [← hsa, ← hda]
  · simp only [htl, List.drop_succ_cons, List.drop_left]

end FreeRtosTsn.Lib.Ethernet
