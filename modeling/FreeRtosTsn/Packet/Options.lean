import FreeRtosTsn.Packet.Sockets

/-!
# Socket options

What holds of a TSN socket from its creation on, whatever options are set.
-/

namespace FreeRtosTsn.Packet

open Lib Kernel

def freertosSoTimestamp : Int := 29
def freertosSoTimestampNs : Int := 35

/-- The options that FreeRTOS_TSN_Sockets.h defines. -/
def TsnOption (cfg : Config) (lOptionName : Int) : Prop :=
  lOptionName ∈ [freertosSoTimestamp, freertosSoTimestampNs, freertosSoTimestamping, freertosSoDsClass] ∨
    cfg.tsnconfigSocketInsertsVlanTags = true ∧
      lOptionName ∈ [freertosSoVlanCtagPcp, freertosSoVlanStagPcp, freertosSoVlanTagRst]

/-- The fields of the options are in their ranges. A socket has tags only if it inserts them. -/
structure OptionsOk (cfg : Config) (s : TSNSocket) : Prop where
  ucVLANTagsCount : cfg.tsnconfigSocketInsertsVlanTags = true → s.ucVLANTagsCount ≤ 2
  ucDSClass : s.ucDSClass < 64
  ulTSFlags : s.ulTSFlags < 2 ^ 17

/-- The bits below the PCP are the same. -/
def SameBelowPcp (x y : UInt16) : Prop := ∀ i < 13, x.toNat.testBit i = y.toNat.testBit i

/-- The TCIs after an option was set: a PCP option changes the PCP of its own. -/
structure TcisKept (lOptionName : Int) (s s' : TSNSocket) : Prop where
  usVLANCTagTCI : if lOptionName = freertosSoVlanCtagPcp then SameBelowPcp s'.usVLANCTagTCI s.usVLANCTagTCI
    else s'.usVLANCTagTCI = s.usVLANCTagTCI
  usVLANSTagTCI : if lOptionName = freertosSoVlanStagPcp then SameBelowPcp s'.usVLANSTagTCI s.usVLANSTagTCI
    else s'.usVLANSTagTCI = s.usVLANSTagTCI

/-- A call of `FreeRTOS_TSN_setsockopt` in `w` returned `r` and left `w'`. A value that was not taken is answered by a
negative errno, and nothing happened. -/
structure CallKeeps (cfg : Config) (t : Addr) (lOptionName r : Int) (w w' : World) : Prop where
  rejected : r ≠ 0 → r < 0 ∧ w' = w
  tcis : ∀ s s', w.heap t = some (.tsnSocket s) → w'.heap t = some (.tsnSocket s') → TcisKept lOptionName s s'
  optionsOk : ∃ s', w'.heap t = some (.tsnSocket s') ∧ OptionsOk cfg s'

/-- Each of the calls does so. -/
def CallsKeep (cfg : Config) (t : Addr) : List (Int × Int) → World → Prop
  | [], _ => True
  | (lOptionName, ulOptionValue) :: calls, w =>
      ∃ r w', (freeRtosTsnSetsockopt cfg t lOptionName ulOptionValue).run w = .ok r w' ∧
        CallKeeps cfg t lOptionName r w w' ∧ CallsKeep cfg t calls w'

/-- The options of a new socket are in their ranges, and stay there over the calls. -/
def OptionsInvariant (cfg : Config) (t : Addr) (calls : List (Int × Int)) (w : World) : Prop :=
  (∃ s, w.heap t = some (.tsnSocket s) ∧ OptionsOk cfg s) ∧ CallsKeep cfg t calls w

/-- The value is taken as it is, or refused as it should be. -/
def CallFits : Int × Int → Prop
  | (lOptionName, ulOptionValue) =>
      (lOptionName = freertosSoDsClass → 64 ≤ ulOptionValue ∨ ulOptionValue % 256 < 64) ∧
        (lOptionName = freertosSoTimestamping → inTimestampingMask ulOptionValue = true)

end FreeRtosTsn.Packet
