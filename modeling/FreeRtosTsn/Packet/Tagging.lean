import FreeRtosTsn.Lib.Ethernet
import FreeRtosTsn.Packet.Spec

/-!
# What the insertion of tags should do

The frame that the controller hands to the driver, and the buffer it may use for it.
-/

namespace FreeRtosTsn.Packet

open Lib Kernel

/-- The tags of an interface, in the order of the wire. -/
def interfaceTags (cfg : Config) (c : NetworkInterfaceConfig) : List Ethernet.Tag :=
  match uxInsertedTags cfg c with
  | 0 => []
  | 1 => [⟨0x8100, c.usVLANTag.toNat⟩]
  | _ => [⟨0x88a8, c.usServiceVLANTag.toNat⟩, ⟨0x8100, c.usVLANTag.toNat⟩]

/-- A frame of `n` bytes with tags behind its addresses. -/
def taggedFrame (m : Mem) (n : Nat) (tags : List Ethernet.Tag) : List UInt8 :=
  m.read 0 12 ++ tags.flatMap Ethernet.Tag.bytes ++ m.read 12 (n - 12)

/-- What the controller does with a frame that has its tags: it calls the driver, and reports what the driver took. -/
def prvPassToDriver (cfg : Config) (pxBuffer : BufId) (bReleaseAfterSend : Bool) : M Bool := do
  if !(← xMacNetworkInterfaceOutput pxBuffer bReleaseAfterSend) then
    return false
  prvTimestampSent cfg pxBuffer
  return true

/-- The frame of `w` has the tags of the interface in `w₁`. -/
structure FrameTagged (cfg : Config) (c : NetworkInterfaceConfig) (b : BufId) (w w₁ : World) : Prop where
  xDataLength : (w₁.bufs b).xDataLength = (w.bufs b).xDataLength + 4 * uxInsertedTags cfg c
  frame : frameOf w₁ b = taggedFrame (w.mem b) (w.bufs b).xDataLength (interfaceTags cfg c)

/-- It has them, and nothing beyond a requested size was touched. -/
structure TagsInserted (cfg : Config) (c : NetworkInterfaceConfig) (b : BufId) (w w₁ : World) : Prop
    extends FrameTagged cfg c b w w₁ where
  inBounds : w₁.overruns = w.overruns

/-- The controller brings the frame into the state `w₁`, in which it passes it to the driver. -/
structure HandsOver (cfg : Config) (i : IfaceId) (b : BufId) (bRelease : Bool) (w w₁ : World) : Prop where
  inserted : (prvInsertInterfaceTags cfg (w.interfaces i) b).run w = .ok true w₁
  passed : (xTsnNetworkInterfaceOutput cfg i b bRelease).run w = (prvPassToDriver cfg b bRelease).run w₁

end FreeRtosTsn.Packet
