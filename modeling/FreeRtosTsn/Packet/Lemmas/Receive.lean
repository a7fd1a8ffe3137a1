import FreeRtosTsn.Packet.Lemmas.Build
import FreeRtosTsn.Packet.Lemmas.Parse

/-!
# Reception

What `prvHandleReceive` makes of a frame, by the socket that is bound to its port.
-/

namespace FreeRtosTsn.Packet

open Lib Kernel

variable {w w₁ : World} {b : BufId} {f : ParsedFrame}

/-! ## Finding a socket -/

theorem run_vSocketFromPort_tsn {p : UInt16} {t : Addr} {s : TSNSocket}
    (hl : prvLookup p w.xTSNBoundUDPSocketList = some t) (hs : w.heap t = some (.tsnSocket s)) :
    (vSocketFromPort p).run w = .ok (some s.xBaseSocket, some t) w := by
  rw [vSocketFromPort, run_bind_ok (EStateM.run_get w), hl]
  dsimp only
  rw [run_bind_ok (run_loadTsnSocket hs)]
  rfl

theorem run_vSocketFromPort_plain {p : UInt16} (hl : prvLookup p w.xTSNBoundUDPSocketList = none) :
    (vSocketFromPort p).run w = .ok (prvLookup p w.xBoundUDPSocketsList, none) w := by
  rw [vSocketFromPort, run_bind_ok (EStateM.run_get w), hl]
  rfl

/-! ## The item -/

def madeItem (w : World) (xItem : NetworkQueueItem) : World :=
  if w.env.pvPortMalloc w.calls then w.tick.setBlock w.calls (some (.item xItem)) else w.tick

theorem run_prvMakeItem (w : World) (xItem : NetworkQueueItem) :
    (prvMakeItem xItem).run w = .ok (if w.env.pvPortMalloc w.calls then some xItem else none) (madeItem w xItem) := by
  rw [prvMakeItem, madeItem]
  cases hm : w.env.pvPortMalloc w.calls with
  | true =>
      rw [run_bind_ok (run_pvPortMalloc_ok hm _)]
      rfl
  | false =>
      rw [run_bind_ok (run_pvPortMalloc_null hm _)]
      rfl

theorem Extends.item (h : HeapOk w) (xItem : NetworkQueueItem) : Extends w (madeItem w xItem) := by
  unfold madeItem
  split
  · exact Extends.alloc h (b := .item xItem) fun m p hb => nomatch hb
  · exact Extends.tick h

theorem prvMsghFor_plain (hport : f.usDestinationPort = 0 ∨ prvLookup f.usDestinationPort w.xTSNBoundUDPSocketList = none ∧
      prvLookup f.usDestinationPort w.xBoundUDPSocketsList ≠ none) (b : BufId) :
    (prvMsghFor b f).run w = .ok (some none) w := by
  by_cases h0 : f.usDestinationPort = 0
  · rw [prvMsghFor, if_pos h0]
    rfl
  · obtain ⟨hl, hplain⟩ := hport.resolve_left h0
    obtain ⟨k, hk⟩ := Option.ne_none_iff_exists'.mp hplain
    rw [prvMsghFor, if_neg h0, run_bind_ok (run_vSocketFromPort_plain hl), hk]
    rfl

theorem prvHandleReceive_item {w₂ : World} {pxMsgh : Option Addr} (hparse : (prvParseFrame b).run w = .ok f w₁)
    (hfor : (prvMsghFor b f).run w₁ = .ok (some pxMsgh) w₂) :
    (prvHandleReceive b).run w = .ok (if w₂.env.pvPortMalloc w₂.calls then some (rxItem b pxMsgh) else none)
      (madeItem w₂ (rxItem b pxMsgh)) := by
  rw [prvHandleReceive_eq, run_bind_ok hparse, prvItemFor, run_bind_ok hfor, ← run_prvMakeItem]
  rfl

theorem prvHandleReceive_plain (h : HeapOk w₁) (hparse : (prvParseFrame b).run w = .ok f w₁)
    (hport : f.usDestinationPort = 0 ∨ prvLookup f.usDestinationPort w₁.xTSNBoundUDPSocketList = none ∧
      prvLookup f.usDestinationPort w₁.xBoundUDPSocketsList ≠ none) :
    ∃ w', (prvHandleReceive b).run w =
        .ok (if w₁.env.pvPortMalloc w₁.calls then some (rxItem b none) else none) w' ∧ Extends w₁ w' :=
  ⟨_, prvHandleReceive_item hparse (prvMsghFor_plain hport b), Extends.item h _⟩

theorem prvHandleReceive_unbound (hparse : (prvParseFrame b).run w = .ok f w₁) (h0 : f.usDestinationPort ≠ 0)
    (hl : prvLookup f.usDestinationPort w₁.xTSNBoundUDPSocketList = none)
    (hplain : prvLookup f.usDestinationPort w₁.xBoundUDPSocketsList = none) :
    (prvHandleReceive b).run w = .ok none w₁ := by
  have hfor : (prvMsghFor b f).run w₁ = .ok none w₁ := by
    rw [prvMsghFor, if_neg h0, run_bind_ok (run_vSocketFromPort_plain hl), hplain]
    rfl
  rw [prvHandleReceive, run_bind_ok hparse, run_bind_ok hfor]
  rfl

section Tsn

variable {t : Addr} {s : TSNSocket}

/-- The message of a frame for a TSN socket refers to it if there is memory for the vector. -/
theorem prvMsghFor_tsn (h : HeapOk w) (htb : TimebaseOk w) (h0 : f.usDestinationPort ≠ 0)
    (hl : prvLookup f.usDestinationPort w.xTSNBoundUDPSocketList = some t) (hs : w.heap t = some (.tsnSocket s))
    (hm : w.env.pvPortMalloc w.calls = true) (b : BufId) :
    ∃ w' m, (prvMsghFor b f).run w = .ok (some (some w.calls)) w' ∧ MessageBuilt w w' b s f m := by
  obtain ⟨w', m, hbuild, hB⟩ := prvBuildMsgh_ok h htb hs b f hm
  refine ⟨w', m, ?_, hB⟩
  rw [prvMsghFor, if_neg h0, run_bind_ok (run_vSocketFromPort_tsn hl hs)]
  dsimp only
  rw [run_bind_ok hbuild]
  rfl

theorem prvHandleReceive_tsn (h : HeapOk w₁) (htb : TimebaseOk w₁) (hparse : (prvParseFrame b).run w = .ok f w₁)
    (h0 : f.usDestinationPort ≠ 0) (hl : prvLookup f.usDestinationPort w₁.xTSNBoundUDPSocketList = some t)
    (hs : w₁.heap t = some (.tsnSocket s)) (hp : (w₁.bufs b).pucEthernetBuffer = .eth b 0)
    (hm : w₁.env.pvPortMalloc w₁.calls = true) :
    ∃ w' n m, (prvHandleReceive b).run w =
        .ok (if w₁.env.pvPortMalloc n then some (rxItem b (some w₁.calls)) else none) w' ∧ Extends w₁ w' ∧
      w'.heap w₁.calls = some (.msghdr m) ∧ m.msgFlags = 0 ∧
      (f.usFrameType = ipIPv4FrameType → (∀ n, w₁.env.pvPortMalloc n = true) →
        NamedBy w' m ⟨4, freertosAfInet, f.usDestinationPort, 0, f.xDestinationAddr⟩) ∧
      if w₁.env.pvPortMalloc (iovecCall w₁ s f) then ∃ i, Carries w' w₁.calls b m i (w₁.bufs b).xDataLength
      else m.msgIov = none := by
  obtain ⟨w₂, m, hfor, hB, hname, hiov⟩ := prvMsghFor_tsn h htb h0 hl hs hm b
  have hw' := Extends.item hB.heapOk (rxItem b (some w₁.calls))
  have henv : w₂.env = w₁.env := by rw [hB.step.eq]
  have hkeep : ∀ {x c}, w₂.heap x = some c → (madeItem w₂ (rxItem b (some w₁.calls))).heap x = some c := fun hx => by
    rw [hw'.old _ (hB.heapOk.lt_calls hx)]
    exact hx
  refine ⟨_, w₂.calls, m, ?_, hB.toExtends.trans hw', hkeep hB.msghdr, hB.msgFlags, ?_, ?_⟩
  · rw [← henv]
    exact prvHandleReceive_item hparse hfor
  · intro h4 hall
    obtain ⟨hlen, y, hy, hx⟩ := hname h4 hall
    exact ⟨hlen, y, hy, hkeep hx⟩
  · rw [hp] at hiov
    by_cases hcall : w₁.env.pvPortMalloc (iovecCall w₁ s f) = true
    · rw [if_pos hcall] at hiov ⊢
      obtain ⟨hlen, i, hi, hv⟩ := hiov
      exact ⟨i, hkeep hB.msghdr, hB.msgFlags, hi, hlen, hkeep hv⟩
    · rw [if_neg hcall] at hiov ⊢
      exact hiov

theorem prvHandleReceive_tsn_null (hparse : (prvParseFrame b).run w = .ok f w₁) (h0 : f.usDestinationPort ≠ 0)
    (hl : prvLookup f.usDestinationPort w₁.xTSNBoundUDPSocketList = some t)
    (hs : w₁.heap t = some (.tsnSocket s)) (hm : w₁.env.pvPortMalloc w₁.calls = false) :
    (prvHandleReceive b).run w = .error .null w₁.tick := by
  have hfor : (prvMsghFor b f).run w₁ = .error .null w₁.tick := by
    rw [prvMsghFor, if_neg h0, run_bind_ok (run_vSocketFromPort_tsn hl hs)]
    dsimp only
    rw [run_bind_error (prvBuildMsgh_null b t f hm)]
  rw [prvHandleReceive, run_bind_ok hparse, run_bind_error hfor]

end Tsn

end FreeRtosTsn.Packet
