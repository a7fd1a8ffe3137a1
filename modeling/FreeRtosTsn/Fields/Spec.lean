import FreeRtosTsn.Lib.BitField
import FreeRtosTsn.Fields.VlanTags
import FreeRtosTsn.Fields.DiffServ
import FreeRtosTsn.Packet.Spec

/-!
# The wire format of the fields

Tags and DSCP as the standards draw them, and what is expected of the accessors in these terms.
-/

namespace FreeRtosTsn.Fields

open Lib Kernel Packet

/-- A call that ends with `a`. -/
def Returns {α : Type} (x : M α) (w : World) (a : α) : Prop := ∃ w', x.run w = .ok a w'

/-! ## Tags -/

/-- The number in the two bytes at `i`. -/
def etherTypeAt (m : Mem) (i : Nat) : Nat := m.field (8 * i) 16

def Untagged (m : Mem) : Prop := etherTypeAt m 12 ≠ 0x8100 ∧ etherTypeAt m 12 ≠ 0x88a8

def SingleTagged (m : Mem) : Prop := etherTypeAt m 12 = 0x8100

def DoubleTagged (m : Mem) : Prop := etherTypeAt m 12 = 0x88a8 ∧ etherTypeAt m 16 = 0x8100

/-- A service tag with no customer tag behind it. -/
def ServiceTagged (m : Mem) : Prop := etherTypeAt m 12 = 0x88a8 ∧ etherTypeAt m 16 ≠ 0x8100

instance (m : Mem) : Decidable (Untagged m) := inferInstanceAs (Decidable (_ ∧ _))

instance (m : Mem) : Decidable (ServiceTagged m) := inferInstanceAs (Decidable (_ ∧ _))

inductive TagKind
  | customer
  | service
  deriving DecidableEq

inductive TagField
  | pcp
  | dei
  | vid
  deriving DecidableEq

/-- The first bit of a field of a TCI. -/
def TagField.start : TagField → Nat
  | .pcp => 0
  | .dei => 3
  | .vid => 4

def TagField.width : TagField → Nat
  | .pcp => 3
  | .dei => 1
  | .vid => 12

/-- Where the TCI of a tag is, if the frame has the tag. -/
def tciPlace (m : Mem) : TagKind → Option Nat
  | .customer =>
      if etherTypeAt m 12 = 0x8100 then some 14
      else if etherTypeAt m 12 = 0x88a8 ∧ etherTypeAt m 16 = 0x8100 then some 18
      else none
  | .service => if etherTypeAt m 12 = 0x88a8 then some 14 else none

/-- A field of the TCI at `i`. -/
def tciField (m : Mem) (i : Nat) (f : TagField) : Nat := m.field (8 * i + f.start) f.width

def uxTagsOf (m : Mem) : Nat :=
  (if (tciPlace m .service).isSome then 1 else 0) + (if (tciPlace m .customer).isSome then 1 else 0)

/-! ## Getters -/

def getter : TagKind → TagField → BufId → M Int
  | .customer, .pcp => xVLANCTagGetPCP
  | .customer, .dei => xVLANCTagGetDEI
  | .customer, .vid => xVLANCTagGetVID
  | .service, .pcp => xVLANSTagGetPCP
  | .service, .dei => xVLANSTagGetDEI
  | .service, .vid => xVLANSTagGetVID

def checkClass : TagKind → BufId → Int → M Bool
  | .customer => xVLANCTagCheckClass
  | .service => xVLANSTagCheckClass

/-- The getters and the checks read the frame in `b` as the wire format has it. -/
structure GettersDecode (w : World) (b : BufId) : Prop where
  untagged : Untagged (w.mem b) → ∀ k f, Returns (getter k f b) w (-1)
  single : SingleTagged (w.mem b) → ∀ f,
    Returns (getter .customer f b) w (tciField (w.mem b) 14 f) ∧ Returns (getter .service f b) w (-1)
  double : DoubleTagged (w.mem b) → ∀ f,
    Returns (getter .service f b) w (tciField (w.mem b) 14 f) ∧
      Returns (getter .customer f b) w (tciField (w.mem b) 18 f)
  checks : ∀ k p, ∃ r, Returns (checkClass k b p) w r ∧
    (r = true ↔ ∃ i, tciPlace (w.mem b) k = some i ∧ (tciField (w.mem b) i .pcp : Int) = p)

/-! ## Setters -/

def setter : TagKind → TagField → BufId → Int → M Bool
  | .customer, .pcp => xVLANCTagSetPCP
  | .customer, .dei => xVLANCTagSetDEI
  | .customer, .vid => xVLANCTagSetVID
  | .service, .pcp => xVLANSTagSetPCP
  | .service, .dei => xVLANSTagSetDEI
  | .service, .vid => xVLANSTagSetVID

/-- How many tags are created before a field of the tag `k` is set. A service tag has a customer tag behind it. -/
def uxTagsCreated (m : Mem) : TagKind → Nat
  | .customer => if uxTagsOf m = 0 then 1 else 0
  | .service => 2 - uxTagsOf m

/-- A field of a tag that the frame has, or that is created. -/
def fieldBefore (m : Mem) (k : TagKind) (f : TagField) : Nat :=
  match tciPlace m k with
  | some i => tciField m i f
  | none => 0

/-- What a getter returns after the field `f` of the tag `k` was set to `v`. -/
def fieldAfter (m : Mem) (k : TagKind) (f : TagField) (v : Nat) (k' : TagKind) (f' : TagField) : Int :=
  if k' = k ∧ f' = f then v
  else if k' = .service ∧ k = .customer ∧ tciPlace m .service = none then -1
  else fieldBefore m k' f'

/-- A setter called in `w` left the state `w'`. -/
structure LensLaws (b : BufId) (k : TagKind) (f : TagField) (v : Nat) (w w' : World) : Prop where
  fields : ∀ k' f', Returns (getter k' f' b) w' (fieldAfter (w.mem b) k f v k' f')
  xDataLength : (w'.bufs b).xDataLength = (w.bufs b).xDataLength + 4 * uxTagsCreated (w.mem b) k
  addresses : ∀ i < 12, w'.mem b i = w.mem b i
  payload : ∀ i, 12 + 4 * uxTagsOf (w.mem b) ≤ i → i < (w.bufs b).xDataLength →
    w'.mem b (i + 4 * uxTagsCreated (w.mem b) k) = w.mem b i
  again : ∃ w'', (setter k f b v).run w' = .ok true w'' ∧ frameOf w'' b = frameOf w' b

/-- The setter ends, returns `pdTRUE` and obeys the laws. -/
def SetterLawful (w : World) (b : BufId) (k : TagKind) (f : TagField) (v : Nat) : Prop :=
  ∃ w', (setter k f b v).run w = .ok true w' ∧ LensLaws b k f v w w'

/-- A frame that fits its buffer with `n` bytes to spare. -/
structure EthFrame (w : World) (b : BufId) (n : Nat) : Prop where
  pucEthernetBuffer : (w.bufs b).pucEthernetBuffer = .eth b 0
  headers : 14 + 4 * uxTagsOf (w.mem b) ≤ (w.bufs b).xDataLength
  cap : (w.bufs b).xDataLength + n ≤ w.cap b

/-! ## DSCP -/

/-- The offset of the network header. -/
def networkPlace (m : Mem) : Nat := 14 + 4 * uxTagsOf m

/-- The frame type behind the tags. -/
def frameType (m : Mem) : Nat := etherTypeAt m (12 + 4 * uxTagsOf m)

def CarriesIPv4 (m : Mem) : Prop := frameType m = 0x0800

def CarriesIPv6 (m : Mem) : Prop := frameType m = 0x86DD

instance (m : Mem) : Decidable (CarriesIPv4 m) := inferInstanceAs (Decidable (_ = _))

/-- The first bit of the DSCP, of which there are six. -/
def dscpStart (m : Mem) : Nat :=
  if frameType m = 0x0800 then 8 * (networkPlace m + 1) else 8 * networkPlace m + 4

def dscpOf (m : Mem) : Nat := m.field (dscpStart m) 6

/-- The two bits behind the DSCP of IPv4. -/
def ecnOf (m : Mem) : Nat := m.field (8 * (networkPlace m + 1) + 6) 2

/-- The accessors of the class of the frame in `b`, whatever is on the stack when they are called. -/
structure DSClassLaws (w : World) (b : BufId) : Prop where
  set : ¬ServiceTagged (w.mem b) → CarriesIPv4 (w.mem b) ∨ CarriesIPv6 (w.mem b) → ∀ v : UInt8, v < 64 → ∀ usStack,
    ∃ w', (xDSClassSet usStack b v).run w = .ok true w' ∧ (∀ usStack', Returns (ucDSClassGet usStack' b) w' v) ∧
      Mem.AgreeOff (dscpStart (w.mem b)) 6 (w.mem b) (w'.mem b) ∧ w'.bufs = w.bufs
  get : ¬ServiceTagged (w.mem b) → CarriesIPv4 (w.mem b) ∨ CarriesIPv6 (w.mem b) → ∀ usStack,
    Returns (ucDSClassGet usStack b) w (UInt8.ofNat (dscpOf (w.mem b)))
  other : ¬CarriesIPv4 (w.mem b) → ¬CarriesIPv6 (w.mem b) → ∀ v usStack,
    (∃ w', (xDSClassSet usStack b v).run w = .ok false w' ∧ w'.mem b = w.mem b ∧ w'.bufs = w.bufs) ∧
      Returns (ucDSClassGet usStack b) w 0xFF

/-- The frames on which the accessors are right. The code takes the type of a frame with one service tag from behind a
customer tag. -/
structure ClassReadable (m : Mem) : Prop where
  tagged : ¬Untagged m
  ecn : ¬ServiceTagged m → CarriesIPv4 m → ecnOf m = 0
  service : ServiceTagged m → ¬CarriesIPv4 m → ¬CarriesIPv6 m → etherTypeAt m 20 ≠ 0x0800 ∧ etherTypeAt m 20 ≠ 0x86DD

end FreeRtosTsn.Fields
