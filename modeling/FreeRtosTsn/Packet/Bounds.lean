import FreeRtosTsn.Packet.Lemmas.Tags
import FreeRtosTsn.Packet.Spec

/-!
# Bounds of a reception

Which bytes of a frame the wrapper reads and moves. The strip works on the whole frame, and what follows it on the
frame that is left.
-/

namespace FreeRtosTsn.Packet

open Lib Kernel

variable {α : Type}

/-! ## The two halves of `prvHandleReceive` -/

/-- What follows the strip in `prvParseFrame`. -/
def prvParseStripped (pxBuf : BufId) (pucEBuf : Ptr) : M ParsedFrame := do
  let usFrameType ← load16 pucEBuf ethFrameType
  let (ucProtocol, xDestinationAddr, uxPrefix) ← prvParseNetwork pucEBuf usFrameType
  let (usDestinationPort, usSourcePort) ← prvParsePorts pucEBuf ucProtocol uxPrefix
  modifyBuf pxBuf fun d => { d with usBoundPort := usDestinationPort, usPort := usSourcePort }
  return ⟨usFrameType, xDestinationAddr, usDestinationPort⟩

/-- The end of `prvHandleReceive`. -/
def prvMakeItem (xItem : NetworkQueueItem) : M (Option NetworkQueueItem) := do
  match ← pvPortMalloc (.item xItem) with
  | none => return none
  | some _ => return some xItem

/-- What `prvHandleReceive` does with a parsed frame. -/
def prvItemFor (pxBuf : BufId) (f : ParsedFrame) : M (Option NetworkQueueItem) := do
  match ← prvMsghFor pxBuf f with
  | none => return none
  | some pxMsgh => prvMakeItem ⟨.eNetworkRxEvent, some pxBuf, pxMsgh, true⟩

theorem prvHandleReceive_eq (b : BufId) : prvHandleReceive b = prvParseFrame b >>= prvItemFor b := rfl

theorem prvHandleReceive_halves (b : BufId) : prvHandleReceive b = (do
    let d ← loadBuf b
    let _ ← prvStripVLANTag b
    prvParseStripped b d.pucEthernetBuffer >>= prvItemFor b) := by
  simp only [prvHandleReceive_eq, prvParseFrame, prvParseStripped, bind_assoc, pure_bind]

/-! ## Bounds -/

/-- The same state, in which an access is recorded unless it is to the first `n` bytes of the buffer. -/
def boundTo (b : BufId) (n : Nat) (w : World) : World := { w.setCap b n with overruns := [] }

/-- The code reads, writes and moves only the first `n` bytes of the buffer. -/
def StaysBelow (b : BufId) (n : Nat) (x : M α) (w : World) : Prop :=
  (lastState (x.run (boundTo b n w))).overruns = []

/-- A reception of the frame in `b` whose strip found the tags `t` and left `w₁`. -/
structure ReceivesInBounds (b : BufId) (w : World) (t : StrippedTags) (w₁ : World) : Prop where
  strip : StaysBelow b (w.bufs b).xDataLength (prvStripVLANTag b) w
  memmove : t.uxNumTags ≠ 0 → ethFrameType + t.uxNumTags * vlanTagSize ≤ (w.bufs b).xDataLength
  parse : StaysBelow b (w₁.bufs b).xDataLength
    (prvParseStripped b (w.bufs b).pucEthernetBuffer >>= prvItemFor b) w₁
  xDataLength : ((lastState ((prvHandleReceive b).run w)).bufs b).xDataLength + t.uxNumTags * vlanTagSize =
    (w.bufs b).xDataLength

/-- The bytes of the headers that are read in a frame without tags: up to the network layer, and the two ports. -/
def uxHeaderBytes (m : Mem) : Nat := uxPrefixOf m + if hasPorts m then 4 else 0

/-- The frame behind `k` tags. -/
def behindTags (k : Nat) (m : Mem) : Mem := fun i => m (i + k * vlanTagSize)

/-- A frame of `n` bytes has its tags and all headers that they are followed by. -/
def HeadersPresent (m : Mem) (n : Nat) : Prop :=
  uxHeaderBytes (behindTags (uxTagsIn m n) m) + uxTagsIn m n * vlanTagSize ≤ n

instance (m : Mem) (n : Nat) : Decidable (HeadersPresent m n) := inferInstanceAs (Decidable (_ ≤ n))

end FreeRtosTsn.Packet
