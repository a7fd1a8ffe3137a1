import FreeRtosTsn.Packet.Lemmas.Options
import FreeRtosTsn.Packet.Theorems.Send

/-!
# The options of a socket
-/

namespace FreeRtosTsn.Packet

open Lib Kernel

variable {cfg : Config} {w w' : World} {t : Addr}

/-- **Option invariant**: it holds from the creation of a socket over a run of calls exactly when the block that the
socket was given happened to be in its ranges, and each value of the run fits its option. -/
theorem optionsInvariant_iff {bIsIPv6 : Bool} {xType : Nat}
    (hcreate : (freeRtosTsnSocket cfg bIsIPv6 xType).run w = .ok (some t) w') (calls : List (Int × Int))
    (hopts : ∀ c ∈ calls, TsnOption cfg c.1) :
    OptionsInvariant cfg t calls w' ↔ OptionsOk cfg (prvJunkSocket cfg w.env.junk) ∧ ∀ c ∈ calls, CallFits c := by
  obtain ⟨xBaseSocket, xErrQueue, hx, hs⟩ := freeRtosTsnSocket_inv hcreate
  have hhandles : OptionsOk cfg { prvJunkSocket cfg w.env.junk with xBaseSocket, xErrQueue } ↔
      OptionsOk cfg (prvJunkSocket cfg w.env.junk) := optionsOk_handles xBaseSocket xErrQueue
  constructor
  · rintro ⟨⟨s, hs', hok⟩, hkeep⟩
    cases hs.symm.trans hs'
    exact ⟨hhandles.mp hok, (callsKeep_iff hs hx hok calls hopts).mp hkeep⟩
  · rintro ⟨hok, hfit⟩
    exact ⟨⟨_, hs, hhandles.mpr hok⟩, (callsKeep_iff hs hx (hhandles.mpr hok) calls hopts).mpr hfit⟩

/-- A node that has just booted, whose heap holds `junk`. -/
def junkWorld (junk : Mem) : World := World.boot { junk }

/-- Its first socket. -/
def junkSocketWorld (cfg : Config) (junk : Mem) : World :=
  lastState ((freeRtosTsnSocket cfg false freertosSockDgram).run (junkWorld junk))

theorem run_junkWorld (cfg : Config) (junk : Mem) :
    (freeRtosTsnSocket cfg false freertosSockDgram).run (junkWorld junk) = .ok (some 0) (junkSocketWorld cfg junk) := rfl

/-- A block of zeros, and values that fit. -/
theorem optionsInvariant_zeros :
    OptionsInvariant (taggedConfig {}) 0 [(freertosSoVlanCtagPcp, -1), (freertosSoDsClass, 46), (freertosSoDsClass, 64),
      (freertosSoTimestamping, 2 ^ 17 - 1), (freertosSoTimestamp, 1)] (junkSocketWorld (taggedConfig {}) fun _ => 0) := by
  refine (optionsInvariant_iff (run_junkWorld _ _) _ ?_).mpr ⟨⟨fun _ => by decide, by decide, by decide⟩, ?_⟩
  · intro c hc
    simp only [List.mem_cons, List.not_mem_nil, or_false] at hc
    rcases hc with rfl | rfl | rfl | rfl | rfl
    · exact Or.inr ⟨rfl, by decide⟩
    all_goals exact Or.inl (by decide)
  · intro c hc
    simp only [List.mem_cons, List.not_mem_nil, or_false] at hc
    rcases hc with rfl | rfl | rfl | rfl | rfl <;> exact ⟨by decide, by decide⟩

/-- A block of ones has a class that is out of range before any call. Over a block of zeros, the class -1 is stored as
255, and a timestamping flag outside of the mask is answered by a positive errno. -/
theorem options_out_of_range :
    ¬OptionsInvariant {} 0 [] (junkSocketWorld {} fun _ => 255) ∧
      ¬OptionsInvariant {} 0 [(freertosSoDsClass, -1)] (junkSocketWorld {} fun _ => 0) ∧
      ¬OptionsInvariant {} 0 [(freertosSoTimestamping, 2 ^ 17)] (junkSocketWorld {} fun _ => 0) := by
  refine ⟨?_, ?_, ?_⟩
  · rintro ⟨⟨s, hs, hok⟩, -⟩
    cases hs
    exact absurd hok.ucDSClass (by decide)
  · rintro ⟨-, r, w', hrun, hkeep, -⟩
    cases hrun
    obtain ⟨s, hs, hok⟩ := hkeep.optionsOk
    cases hs
    exact absurd hok.ucDSClass (by decide)
  · rintro ⟨-, r, w', hrun, hkeep, -⟩
    cases hrun
    exact absurd (hkeep.rejected (by decide)).1 (by decide)

end FreeRtosTsn.Packet
