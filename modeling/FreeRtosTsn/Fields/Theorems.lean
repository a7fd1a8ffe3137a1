import FreeRtosTsn.Fields.Lemmas.DiffServ

/-!
# The accessors of the fields of a frame

Which frames the getters, the setters and the accessors of the class are right about.
-/

namespace FreeRtosTsn.Fields

open Lib Kernel Packet

variable {w : World} {b : BufId}

/-- Buffer 1 holds the frame `bs`, with eight bytes to spare. -/
def frameWorld (bs : List UInt8) : World :=
  (((World.boot {}).setBuf 1 ⟨.eth 1 0, bs.length, none, none, 0, 0, .ipv4 0⟩).setMem 1 (Mem.ofBytes bs)).setCap 1
    (bs.length + 8)

/-- A frame from one address to another, with the type and what follows it. -/
def sampleFrame (bs : List UInt8) : List UInt8 := [2, 0, 0, 0, 0, 1, 2, 0, 0, 0, 0, 2] ++ bs

/-! ## Getters -/

/-- No getter finds a tag, so the untagged frames are the ones that are read right. -/
theorem getters_decode_iff {n : Nat} (h : EthFrame w b n) : GettersDecode w b ↔ Untagged (w.mem b) := by
  have hgetter := getter_returns h.pucEthernetBuffer
  have hcheck := checkClass_returns h.pucEthernetBuffer
  constructor
  · intro hdecode
    constructor
    · intro hsingle
      have hread := (hdecode.single hsingle .pcp).1.unique (hgetter .customer .pcp)
      omega
    · intro hservice
      have hplace : tciPlace (w.mem b) .service = some 14 := if_pos hservice
      obtain ⟨r, hr, hiff⟩ := hdecode.checks .service (tciField (w.mem b) 14 .pcp)
      have hfalse := hr.unique (hcheck .service _)
      have htrue := hiff.mpr ⟨14, hplace, rfl⟩
      rw [hfalse] at htrue
      cases htrue
  · intro huntagged
    refine ⟨fun _ => hgetter, fun hsingle => absurd hsingle huntagged.1, fun hdouble => absurd hdouble.1 huntagged.2, ?_⟩
    intro k p
    refine ⟨false, hcheck k p, ?_⟩
    cases k with
    | customer => simp [tciPlace, huntagged.1, huntagged.2]
    | service => simp [tciPlace, huntagged.2]

theorem getters_decode_arp : GettersDecode (frameWorld (sampleFrame [0x08, 0x06, 0, 1])) 1 :=
  (getters_decode_iff (n := 8) ⟨rfl, by decide, by decide⟩).mpr ⟨by decide, by decide⟩

/-- A customer tag with PCP 5 and VID 1 is not read. -/
theorem getters_miss_customer_tag :
    ¬GettersDecode (frameWorld (sampleFrame [0x81, 0x00, 0xA0, 0x01, 0x08, 0x06, 0, 1])) 1 := by
  intro hdecode
  have htag : etherTypeAt (Mem.ofBytes (sampleFrame [0x81, 0x00, 0xA0, 0x01, 0x08, 0x06, 0, 1])) 12 = 0x8100 := by decide
  have hread := (hdecode.single htag .pcp).1.unique (getter_returns rfl .customer .pcp)
  omega

/-! ## Setters -/

/-- A setter stops at a null pointer or returns `pdFALSE`. -/
theorem setter_never_lawful (w : World) (b : BufId) (k : TagKind) (f : TagField) (v : Nat) : ¬SetterLawful w b k f v := by
  rintro ⟨w', hrun, -⟩
  exact setter_not_true k f v w' hrun

/-- The priority of an untagged frame cannot be set. -/
theorem setter_stops_on_arp :
    Untagged ((frameWorld (sampleFrame [0x08, 0x06, 0, 1])).mem 1) ∧
      EthFrame (frameWorld (sampleFrame [0x08, 0x06, 0, 1])) 1 8 ∧
      ¬SetterLawful (frameWorld (sampleFrame [0x08, 0x06, 0, 1])) 1 .customer .pcp 5 := by
  refine ⟨⟨by decide, by decide⟩, ⟨rfl, by decide, by decide⟩, ?_⟩
  rintro ⟨w', hrun, -⟩
  exact setter_not_true .customer .pcp 5 w' hrun

/-! ## The class -/

/-- The class is read and written right behind a customer tag, as far as ECN is not used, and behind a service tag alone
if what follows is not taken for IP. -/
theorem class_laws_iff {n : Nat} (h : EthFrame w b n) : DSClassLaws w b ↔ ClassReadable (w.mem b) := by
  have hp := h.pucEthernetBuffer
  by_cases huntagged : Untagged (w.mem b)
  · constructor
    · intro hlaws
      exact absurd hlaws (not_classLaws_of_untagged hp huntagged)
    · intro hread
      exact absurd huntagged hread.tagged
  · by_cases hservice : ServiceTagged (w.mem b)
    · rw [classLaws_of_service hp hservice]
      exact ⟨fun hother => ⟨huntagged, fun hn => absurd hservice hn, fun _ => hother⟩, fun hread => hread.service hservice⟩
    · rw [classLaws_of_tagged hp huntagged hservice]
      exact ⟨fun hecn => ⟨huntagged, fun _ => hecn, fun hs => absurd hs hservice⟩, fun hread => hread.ecn hservice⟩

/-- IPv4 behind a customer tag, with the byte of the class. -/
def taggedIPv4 (ucClass : UInt8) : List UInt8 :=
  sampleFrame [0x81, 0x00, 0xA0, 0x01, 0x08, 0x00, 0x45, ucClass, 0, 20, 0, 0, 0, 0, 64, 17, 0, 0, 10, 0, 0, 1, 10, 0, 0, 2]

theorem class_laws_customer_tag : DSClassLaws (frameWorld (taggedIPv4 0xB8)) 1 :=
  (class_laws_iff (n := 8) ⟨rfl, by decide, by decide⟩).mpr
    ⟨by decide, fun _ _ => by decide, fun h => absurd h (by decide)⟩

/-- The congestion bits of a frame are lost when its class is set. -/
theorem class_clears_ecn : ¬DSClassLaws (frameWorld (taggedIPv4 0xBB)) 1 := by
  intro hlaws
  have hecn := (classLaws_of_tagged rfl (by decide) (by decide)).mp hlaws (by decide)
  exact absurd hecn (by decide)

end FreeRtosTsn.Fields
