import FreeRtosTsn.Lib.Places
import FreeRtosTsn.Resources.Lifecycle
import FreeRtosTsn.Packet.Lemmas.Sockets

/-!
# The table of bound sockets

What a call does to the sockets that are open, to the ports of their base sockets and to the table.
-/

namespace FreeRtosTsn.Resources

open Lib Kernel Packet

variable {cfg : Config} {w w' : World} {opened : List Addr} {t : Addr}

/-! ## Creation -/

/-- The state after a socket was created. -/
def createdWorld (w : World) (s : TSNSocket) (x : BaseSocket) : World :=
  { w with
    calls := w.calls + 3
    heap := Function.update w.heap w.calls (some (.tsnSocket s))
    baseSockets := Function.update w.baseSockets (w.calls + 1) (some x)
    errQueues := Function.update w.errQueues (w.calls + 2) []
    errQueueHandles := w.errQueueHandles ++ [w.calls + 2] }

/-- The state after a base socket was left behind. -/
def strayWorld (w : World) (x : BaseSocket) : World :=
  { w with
    calls := w.calls + 3
    freed := w.freed ++ [w.calls]
    baseSockets := Function.update w.baseSockets (w.calls + 1) (some x) }

/-- How `FreeRTOS_TSN_socket` ends. -/
inductive SocketOutcome (w : World) (xType : Nat) : Option Addr → World → Prop
  | refused {w' : World} : ¬QueueFails w xType → w' = { w with calls := w'.calls, freed := w'.freed } →
      w.calls ≤ w'.calls → SocketOutcome w xType none w'
  | noQueue {x : BaseSocket} : QueueFails w xType → x.bBound = false → SocketOutcome w xType none (strayWorld w x)
  | created {s : TSNSocket} {x : BaseSocket} : ¬QueueFails w xType → s.xBaseSocket = w.calls + 1 →
      s.xErrQueue = w.calls + 2 → x.bBound = false →
      SocketOutcome w xType (some w.calls) (createdWorld w s x)

theorem run_nextCall (w : World) : nextCall.run w = .ok w.calls w.tick := rfl

theorem run_freeRtosSocket_ok (bIsIPv6 : Bool) (h : w.env.freeRtosSocket w.calls = true) :
    (freeRtosSocket bIsIPv6).run w = .ok (some w.calls)
      (w.tick.setBaseSocket w.calls (some ⟨false, 0, [], bIsIPv6, portMaxDelay, portMaxDelay, none⟩)) := by
  have h' : w.tick.env.freeRtosSocket w.calls = true := h
  rw [freeRtosSocket, run_bind_ok (run_nextCall w), run_bind_ok (EStateM.run_get _), if_pos h']
  rfl

theorem run_freeRtosSocket_null (bIsIPv6 : Bool) (h : w.env.freeRtosSocket w.calls = false) :
    (freeRtosSocket bIsIPv6).run w = .ok none w.tick := by
  have h' : ¬w.tick.env.freeRtosSocket w.calls = true := by simpa using h
  rw [freeRtosSocket, run_bind_ok (run_nextCall w), run_bind_ok (EStateM.run_get _), if_neg h']
  rfl

theorem run_xQueueCreate_ok (h : w.env.xQueueCreate w.calls = true) :
    xQueueCreate.run w = .ok (some w.calls) (w.tick.addErrQueue w.calls) := by
  have h' : w.tick.env.xQueueCreate w.calls = true := h
  rw [xQueueCreate, run_bind_ok (run_nextCall w), run_bind_ok (EStateM.run_get _), if_pos h']
  rfl

theorem run_xQueueCreate_null (h : w.env.xQueueCreate w.calls = false) :
    xQueueCreate.run w = .ok none w.tick := by
  have h' : ¬w.tick.env.xQueueCreate w.calls = true := by simpa using h
  rw [xQueueCreate, run_bind_ok (run_nextCall w), run_bind_ok (EStateM.run_get _), if_neg h']
  rfl

theorem run_storeBlock (a : Addr) (b : Block) (w : World) :
    (storeBlock a b).run w = .ok () (w.setBlock a (some b)) := rfl

/-- The state after the base socket was created and the block of the socket points to it. -/
def linkedWorld (w : World) (s : TSNSocket) (x : BaseSocket) : World :=
  { w with
    calls := w.calls + 2
    heap := Function.update w.heap w.calls (some (.tsnSocket { s with xBaseSocket := w.calls + 1 }))
    baseSockets := Function.update w.baseSockets (w.calls + 1) (some x) }

section Socket

variable {bIsIPv6 : Bool} (hm : w.env.pvPortMalloc w.calls = true)

theorem freeRtosSocket_linked (s : TSNSocket) (hs : w.env.freeRtosSocket (w.calls + 1) = true) :
    ∃ x w₁, x.bBound = false ∧
      (freeRtosSocket bIsIPv6).run (w.tick.setBlock w.calls (some (.tsnSocket s))) = .ok (some (w.calls + 1)) w₁ ∧
      (storeBlock w.calls (.tsnSocket { s with xBaseSocket := w.calls + 1 })).run w₁ = .ok () (linkedWorld w s x) := by
  have hs₁ : (w.tick.setBlock w.calls (some (.tsnSocket s))).env.freeRtosSocket
      (w.tick.setBlock w.calls (some (.tsnSocket s))).calls = true := hs
  refine ⟨⟨false, 0, [], bIsIPv6, portMaxDelay, portMaxDelay, none⟩, _, rfl, run_freeRtosSocket_ok bIsIPv6 hs₁, ?_⟩
  rw [run_storeBlock]
  simp [linkedWorld, World.tick, World.setBlock, World.setBaseSocket]

include hm

theorem freeRtosTsnSocket_noBase (hfresh : w.heap w.calls = none) (hs : w.env.freeRtosSocket (w.calls + 1) = false) :
    ∃ w', (freeRtosTsnSocket cfg bIsIPv6 freertosSockDgram).run w = .ok none w' ∧
      w' = { w with calls := w'.calls, freed := w'.freed } ∧ w.calls ≤ w'.calls := by
  rw [freeRtosTsnSocket, if_neg (by simp), run_bind_ok (EStateM.run_get w)]
  generalize prvJunkSocket cfg w.env.junk = s
  have hs₁ : (w.tick.setBlock w.calls (some (.tsnSocket s))).env.freeRtosSocket
      (w.tick.setBlock w.calls (some (.tsnSocket s))).calls = false := hs
  have hblock : (w.tick.setBlock w.calls (some (.tsnSocket s))).tick.heap w.calls = some (.tsnSocket s) := by simp
  rw [run_bind_ok (run_pvPortMalloc_ok hm _)]
  dsimp only
  rw [run_bind_ok (run_freeRtosSocket_null bIsIPv6 hs₁), run_bind_ok (run_vPortFree hblock)]
  have hold : Function.update w.heap w.calls none = w.heap := by rw [← hfresh, Function.update_eq_self]
  refine ⟨_, rfl, ?_, Nat.le_add_right _ 2⟩
  simp [World.free, World.tick, World.setBlock, hold]

variable (hs : w.env.freeRtosSocket (w.calls + 1) = true)
include hs

/-- Without an error queue the block is freed, and the base socket is left behind. -/
theorem freeRtosTsnSocket_noQueue (hfresh : w.heap w.calls = none) (hq : w.env.xQueueCreate (w.calls + 2) = false) :
    ∃ x, x.bBound = false ∧ (freeRtosTsnSocket cfg bIsIPv6 freertosSockDgram).run w = .ok none (strayWorld w x) := by
  rw [freeRtosTsnSocket, if_neg (by simp), run_bind_ok (EStateM.run_get w)]
  generalize prvJunkSocket cfg w.env.junk = s
  obtain ⟨x, w₁, hb, hbase, hstore⟩ := freeRtosSocket_linked s hs
  have hq₁ : (linkedWorld w s x).env.xQueueCreate (linkedWorld w s x).calls = false := hq
  have hblock : (linkedWorld w s x).tick.heap w.calls = some (.tsnSocket { s with xBaseSocket := w.calls + 1 }) :=
    Function.update_self _ _ _
  rw [run_bind_ok (run_pvPortMalloc_ok hm _)]
  dsimp only
  rw [run_bind_ok hbase]
  dsimp only
  rw [run_bind_ok hstore, run_bind_ok (run_xQueueCreate_null hq₁), run_bind_ok (run_vPortFree hblock)]
  have hold : Function.update w.heap w.calls none = w.heap := by rw [← hfresh, Function.update_eq_self]
  have hstray : (linkedWorld w s x).tick.free w.calls = strayWorld w x := by
    simp [linkedWorld, strayWorld, World.free, World.tick, hold]
  exact ⟨x, hb, by rw [hstray]; rfl⟩

theorem freeRtosTsnSocket_ok (hq : w.env.xQueueCreate (w.calls + 2) = true) :
    ∃ s x, s.xBaseSocket = w.calls + 1 ∧ s.xErrQueue = w.calls + 2 ∧ x.bBound = false ∧
      (freeRtosTsnSocket cfg bIsIPv6 freertosSockDgram).run w = .ok (some w.calls) (createdWorld w s x) := by
  rw [freeRtosTsnSocket, if_neg (by simp), run_bind_ok (EStateM.run_get w)]
  generalize prvJunkSocket cfg w.env.junk = s
  obtain ⟨x, w₁, hb, hbase, hstore⟩ := freeRtosSocket_linked s hs
  have hq₁ : (linkedWorld w s x).env.xQueueCreate (linkedWorld w s x).calls = true := hq
  refine ⟨{ s with xBaseSocket := w.calls + 1, xErrQueue := w.calls + 2 }, x, rfl, rfl, hb, ?_⟩
  rw [run_bind_ok (run_pvPortMalloc_ok hm _)]
  dsimp only
  rw [run_bind_ok hbase]
  dsimp only
  rw [run_bind_ok hstore, run_bind_ok (run_xQueueCreate_ok hq₁)]
  dsimp only
  rw [run_bind_ok (run_storeBlock _ _ _)]
  have hcreated : ((linkedWorld w s x).tick.addErrQueue (linkedWorld w s x).calls).setBlock w.calls (some (.tsnSocket
      { s with xBaseSocket := w.calls + 1, xErrQueue := w.calls + 2 })) =
      createdWorld w { s with xBaseSocket := w.calls + 1, xErrQueue := w.calls + 2 } x := by
    simp [linkedWorld, createdWorld, World.addErrQueue, World.tick, World.setBlock]
  rw [← hcreated]
  rfl

end Socket

theorem freeRtosTsnSocket_cases (hfresh : w.heap w.calls = none) (bIsIPv6 : Bool) (xType : Nat) :
    ∃ r w', (freeRtosTsnSocket cfg bIsIPv6 xType).run w = .ok r w' ∧ SocketOutcome w xType r w' := by
  by_cases htype : xType ≠ freertosSockDgram
  · rw [freeRtosTsnSocket, if_pos htype]
    exact ⟨none, w, rfl, .refused (fun h => htype h.1) rfl (Nat.le_refl _)⟩
  obtain rfl := not_not.mp htype
  cases hm : w.env.pvPortMalloc w.calls with
  | false =>
      rw [freeRtosTsnSocket, if_neg (by simp), run_bind_ok (EStateM.run_get w), run_bind_ok (run_pvPortMalloc_null hm _)]
      refine ⟨none, w.tick, rfl, .refused (fun h => ?_) rfl (Nat.le_succ _)⟩
      cases hm.symm.trans h.2.1
  | true =>
      cases hs : w.env.freeRtosSocket (w.calls + 1) with
      | false =>
          obtain ⟨w', hrun, heq, hle⟩ := freeRtosTsnSocket_noBase hm hfresh hs
          refine ⟨none, w', hrun, .refused (fun h => ?_) heq hle⟩
          cases hs.symm.trans h.2.2.1
      | true =>
          cases hq : w.env.xQueueCreate (w.calls + 2) with
          | false =>
              obtain ⟨x, hb, hrun⟩ := freeRtosTsnSocket_noQueue hm hs hfresh hq
              exact ⟨none, _, hrun, .noQueue ⟨rfl, hm, hs, hq⟩ hb⟩
          | true =>
              obtain ⟨s, x, hbase, herr, hb, hrun⟩ := freeRtosTsnSocket_ok hm hs hq
              refine ⟨some w.calls, _, hrun, .created (fun h => ?_) hbase herr hb⟩
              cases hq.symm.trans h.2.2.2

/-! ## The invariant -/

structure SocketsInv (w : World) (opened : List Addr) : Prop where
  heapFresh : ∀ y, w.calls ≤ y → w.heap y = none
  baseFresh : ∀ k, w.calls ≤ k → w.baseSockets k = none
  nodup : opened.Nodup
  sockets : ∀ t ∈ opened, ∃ k, baseOf w t = some k ∧ w.baseSockets k ≠ none
  own : ∀ t ∈ opened, ∀ t' ∈ opened, ∀ k, baseOf w t = some k → baseOf w t' = some k → t = t'
  listed : ∀ usPort t, (usPort, t) ∈ w.xTSNBoundUDPSocketList ↔ t ∈ opened ∧ boundPort w t = some usPort
  once : (w.xTSNBoundUDPSocketList.map Prod.snd).Nodup
  keys : (w.xTSNBoundUDPSocketList.map Prod.fst).Nodup
  udp : ∀ t ∈ opened, ∀ k usPort, baseOf w t = some k → portOf w k = some usPort →
    (usPort, k) ∈ w.xBoundUDPSocketsList

theorem socketField_eq_some {α : Type} (f : TSNSocket → α) {a : α} :
    (match w.heap t with | some (.tsnSocket s) => some (f s) | _ => none) = some a ↔
      ∃ s, w.heap t = some (.tsnSocket s) ∧ f s = a := by
  split
  · rename_i s hs
    simp [hs]
  · rename_i hno
    constructor
    · intro h
      cases h
    · rintro ⟨s, hs, -⟩
      exact absurd hs (hno s)

theorem baseOf_eq_some {k : SockId} :
    baseOf w t = some k ↔ ∃ s, w.heap t = some (.tsnSocket s) ∧ s.xBaseSocket = k := socketField_eq_some _

theorem baseOf_of_heap {s : TSNSocket} (h : w.heap t = some (.tsnSocket s)) : baseOf w t = some s.xBaseSocket :=
  baseOf_eq_some.mpr ⟨s, h, rfl⟩

theorem baseOf_congr (h : w'.heap t = w.heap t) : baseOf w' t = baseOf w t := by
  rw [baseOf, baseOf, h]

theorem portOf_congr {k : SockId} (h : w'.baseSockets k = w.baseSockets k) : portOf w' k = portOf w k := by
  rw [portOf, portOf, h]

theorem portOf_of_unbound {k : SockId} {x : BaseSocket} (hx : w.baseSockets k = some x) (hb : x.bBound = false) :
    portOf w k = none := by
  simp [portOf, hx, hb]

theorem portOf_of_bound {k : SockId} {x : BaseSocket} (hx : w.baseSockets k = some x) (hb : x.bBound = true) :
    portOf w k = some (swap16 x.usLocalPort) := by
  simp [portOf, hx, hb]

theorem boundPort_of_base {k : SockId} (h : baseOf w t = some k) : boundPort w t = portOf w k := by
  rw [boundPort, h, Option.bind_some]

namespace SocketsInv

/-- An open socket has its block and its base socket. -/
theorem open_heap (h : SocketsInv w opened) (ht : t ∈ opened) :
    ∃ s x, w.heap t = some (.tsnSocket s) ∧ w.baseSockets s.xBaseSocket = some x := by
  obtain ⟨k, hk, hl⟩ := h.sockets t ht
  obtain ⟨s, hs, rfl⟩ := baseOf_eq_some.mp hk
  obtain ⟨x, hx⟩ := Option.ne_none_iff_exists'.mp hl
  exact ⟨s, x, hs, hx⟩

theorem lt_calls (h : SocketsInv w opened) (ht : t ∈ opened) : t < w.calls := by
  obtain ⟨s, -, hs, -⟩ := h.open_heap ht
  by_contra hlt
  rw [h.heapFresh t (Nat.not_lt.mp hlt)] at hs
  cases hs

theorem base_lt_calls (h : SocketsInv w opened) (ht : t ∈ opened) {k : SockId} (hk : baseOf w t = some k) :
    k < w.calls := by
  obtain ⟨k', hk', hlive⟩ := h.sockets t ht
  obtain rfl : k' = k := Option.some.inj (hk'.symm.trans hk)
  by_contra hlt
  exact hlive (h.baseFresh k' (Nat.not_lt.mp hlt))

theorem keep (h : SocketsInv w opened) (hheap : ∀ y, w'.calls ≤ y → w'.heap y = none)
    (hfresh : ∀ k, w'.calls ≤ k → w'.baseSockets k = none) (hbase : ∀ t ∈ opened, baseOf w' t = baseOf w t)
    (hlive : ∀ t ∈ opened, ∀ k, baseOf w t = some k → w.baseSockets k ≠ none →
      w'.baseSockets k ≠ none ∧ portOf w' k = portOf w k)
    (htsn : w'.xTSNBoundUDPSocketList = w.xTSNBoundUDPSocketList)
    (hudp : w'.xBoundUDPSocketsList = w.xBoundUDPSocketsList) : SocketsInv w' opened := by
  have hport : ∀ t ∈ opened, ∀ k, baseOf w t = some k → portOf w' k = portOf w k := by
    intro t ht k hk
    obtain ⟨k', hk', hl⟩ := h.sockets t ht
    obtain rfl : k' = k := Option.some.inj (hk'.symm.trans hk)
    exact (hlive t ht k' hk hl).2
  refine ⟨hheap, hfresh, h.nodup, fun t ht => ?_, fun t ht t' ht' k hk hk' => ?_, fun usPort t => ?_,
    by rw [htsn]; exact h.once, by rw [htsn]; exact h.keys, fun t ht k usPort hk hp => ?_⟩
  · obtain ⟨k, hk, hl⟩ := h.sockets t ht
    exact ⟨k, (hbase t ht).trans hk, (hlive t ht k hk hl).1⟩
  · rw [hbase t ht] at hk
    rw [hbase t' ht'] at hk'
    exact h.own t ht t' ht' k hk hk'
  · rw [htsn, h.listed]
    refine and_congr_right fun ht => ?_
    obtain ⟨k, hk, -⟩ := h.sockets t ht
    rw [boundPort_of_base hk, boundPort_of_base ((hbase t ht).trans hk), hport t ht k hk]
  · rw [hbase t ht] at hk
    rw [hport t ht k hk] at hp
    rw [hudp]
    exact h.udp t ht k usPort hk hp

theorem refused (h : SocketsInv w opened) (heq : w' = { w with calls := w'.calls, freed := w'.freed })
    (hle : w.calls ≤ w'.calls) : SocketsInv w' opened := by
  refine h.keep (fun y hy => ?_) (fun k hk => ?_) (fun t _ => ?_) (fun t _ k _ hl => ?_) (by rw [heq])
    (by rw [heq])
  · rw [heq]
    exact h.heapFresh y (Nat.le_trans hle hy)
  · rw [heq]
    exact h.baseFresh k (Nat.le_trans hle hk)
  · rw [heq]
    rfl
  · rw [heq]
    exact ⟨hl, rfl⟩

theorem stray (h : SocketsInv w opened) (x : BaseSocket) : SocketsInv (strayWorld w x) opened := by
  refine h.keep (fun y hy => ?_) (fun k hk => ?_) (fun t _ => rfl) (fun t ht k hk hl => ?_) rfl rfl
  · exact h.heapFresh y (Nat.le_trans (Nat.le_add_right _ 3) hy)
  · have hle : w.calls + 3 ≤ k := hk
    have hne : k ≠ w.calls + 1 := by omega
    simp only [strayWorld, Function.update_of_ne hne]
    exact h.baseFresh k (by omega)
  · have hne : k ≠ w.calls + 1 := Nat.ne_of_lt (Nat.lt_succ_of_lt (h.base_lt_calls ht hk))
    have hsame : (strayWorld w x).baseSockets k = w.baseSockets k := Function.update_of_ne hne _ _
    exact ⟨by rw [hsame]; exact hl, portOf_congr hsame⟩

theorem created (h : SocketsInv w opened) {s : TSNSocket} {x : BaseSocket} (hs : s.xBaseSocket = w.calls + 1)
    (hb : x.bBound = false) : SocketsInv (createdWorld w s x) (opened ++ [w.calls]) := by
  have hold : ∀ t ∈ opened, baseOf (createdWorld w s x) t = baseOf w t := by
    intro t ht
    exact baseOf_congr (Function.update_of_ne (Nat.ne_of_lt (h.lt_calls ht)) _ _)
  have hnew : baseOf (createdWorld w s x) w.calls = some (w.calls + 1) := by
    rw [← hs]
    exact baseOf_of_heap (Function.update_self _ _ _)
  have hne : ∀ t ∈ opened, ∀ k, baseOf w t = some k → k ≠ w.calls + 1 := by
    intro t ht k hk
    exact Nat.ne_of_lt (Nat.lt_succ_of_lt (h.base_lt_calls ht hk))
  have hsame : ∀ t ∈ opened, ∀ k, baseOf w t = some k → (createdWorld w s x).baseSockets k = w.baseSockets k := by
    intro t ht k hk
    exact Function.update_of_ne (hne t ht k hk) _ _
  have hport : portOf (createdWorld w s x) (w.calls + 1) = none :=
    portOf_of_unbound (Function.update_self _ _ _) hb
  have hnot : w.calls ∉ opened := fun hc => absurd (h.lt_calls hc) (Nat.lt_irrefl _)
  refine ⟨fun y hy => ?_, fun k hk => ?_, ?_, fun t ht => ?_, fun t ht t' ht' k hk hk' => ?_, fun usPort t => ?_,
    h.once, h.keys, fun t ht k usPort hk hp => ?_⟩
  · have hle : w.calls + 3 ≤ y := hy
    have hyne : y ≠ w.calls := by omega
    simp only [createdWorld, Function.update_of_ne hyne]
    exact h.heapFresh y (by omega)
  · have hle : w.calls + 3 ≤ k := hk
    have hkne : k ≠ w.calls + 1 := by omega
    simp only [createdWorld, Function.update_of_ne hkne]
    exact h.baseFresh k (by omega)
  · exact nodup_append_singleton.mpr ⟨hnot, h.nodup⟩
  · rcases List.mem_append.mp ht with ht | ht
    · obtain ⟨k, hk, hl⟩ := h.sockets t ht
      exact ⟨k, (hold t ht).trans hk, by rw [hsame t ht k hk]; exact hl⟩
    · rw [List.mem_singleton.mp ht]
      exact ⟨_, hnew, by simp [createdWorld]⟩
  · rcases List.mem_append.mp ht with ht | ht <;> rcases List.mem_append.mp ht' with ht' | ht'
    · rw [hold t ht] at hk
      rw [hold t' ht'] at hk'
      exact h.own t ht t' ht' k hk hk'
    · rw [hold t ht] at hk
      rw [List.mem_singleton.mp ht', hnew] at hk'
      exact absurd (Option.some.inj hk').symm (hne t ht k hk)
    · rw [hold t' ht'] at hk'
      rw [List.mem_singleton.mp ht, hnew] at hk
      exact absurd (Option.some.inj hk).symm (hne t' ht' k hk')
    · rw [List.mem_singleton.mp ht, List.mem_singleton.mp ht']
  · have hlist : (createdWorld w s x).xTSNBoundUDPSocketList = w.xTSNBoundUDPSocketList := rfl
    rw [hlist, h.listed, List.mem_append, List.mem_singleton]
    constructor
    · rintro ⟨ht, hp⟩
      obtain ⟨k, hk, -⟩ := h.sockets t ht
      refine ⟨Or.inl ht, ?_⟩
      rw [boundPort_of_base ((hold t ht).trans hk), portOf_congr (hsame t ht k hk), ← boundPort_of_base hk]
      exact hp
    · rintro ⟨ht | rfl, hp⟩
      · obtain ⟨k, hk, -⟩ := h.sockets t ht
        rw [boundPort_of_base ((hold t ht).trans hk), portOf_congr (hsame t ht k hk), ← boundPort_of_base hk] at hp
        exact ⟨ht, hp⟩
      · rw [boundPort_of_base hnew, hport] at hp
        cases hp
  · rcases List.mem_append.mp ht with ht | ht
    · rw [hold t ht] at hk
      rw [portOf_congr (hsame t ht k hk)] at hp
      exact h.udp t ht k usPort hk hp
    · rw [List.mem_singleton.mp ht, hnew] at hk
      rw [← Option.some.inj hk, hport] at hp
      cases hp

theorem portOf_boundTsn (k' : SockId) {k : SockId} {x : BaseSocket} {usPort : UInt16} :
    portOf (boundTsn w t k x usPort) k' = if k' = k then some usPort else portOf w k' := by
  split
  · rename_i heq
    subst heq
    rw [portOf_of_bound (Function.update_self _ _ _) rfl, swap16_swap16]
  · rename_i hne
    exact portOf_congr (Function.update_of_ne hne _ _)

/-- A socket that was not bound is bound to a port that was free. -/
theorem bound (h : SocketsInv w opened) (ht : t ∈ opened) {k : SockId} {x : BaseSocket} {usPort : UInt16}
    (hk : baseOf w t = some k) (hx : w.baseSockets k = some x) (hb : x.bBound = false)
    (hfree : prvLookup usPort w.xBoundUDPSocketsList = none) : SocketsInv (boundTsn w t k x usPort) opened := by
  have hbase : ∀ t', baseOf (boundTsn w t k x usPort) t' = baseOf w t' := fun _ => rfl
  have hunbound : boundPort w t = none := by rw [boundPort_of_base hk, portOf_of_unbound hx hb]
  have hself : boundPort (boundTsn w t k x usPort) t = some usPort := by
    rw [boundPort_of_base ((hbase t).trans hk), portOf_boundTsn, if_pos rfl]
  have hother : ∀ t' ∈ opened, t' ≠ t → boundPort (boundTsn w t k x usPort) t' = boundPort w t' := by
    intro t' ht' hne
    obtain ⟨k', hk', -⟩ := h.sockets t' ht'
    have hkk : k' ≠ k := by
      rintro rfl
      exact hne (h.own t' ht' t ht k' hk' hk)
    rw [boundPort_of_base ((hbase t').trans hk'), portOf_boundTsn, if_neg hkk, boundPort_of_base hk']
  have hnew : ∀ t' ∈ opened, boundPort w t' ≠ some usPort := by
    intro t' ht' hp
    obtain ⟨k', hk', -⟩ := h.sockets t' ht'
    rw [boundPort_of_base hk'] at hp
    exact prvLookup_eq_none.mp hfree k' (h.udp t' ht' k' usPort hk' hp)
  have hlist : (boundTsn w t k x usPort).xTSNBoundUDPSocketList = w.xTSNBoundUDPSocketList ++ [(usPort, t)] := rfl
  refine ⟨fun y hy => h.heapFresh y (Nat.le_of_succ_le hy), fun k' hk' => ?_, h.nodup, fun t' ht' => ?_, h.own,
    fun p t' => ?_, ?_, ?_, fun t' ht' k' p hk' hp => ?_⟩
  · have hne : k' ≠ k := fun he => absurd (he ▸ h.base_lt_calls ht hk) (Nat.not_lt.mpr (Nat.le_of_succ_le hk'))
    have hsame : (boundTsn w t k x usPort).baseSockets k' = w.baseSockets k' := Function.update_of_ne hne _ _
    rw [hsame]
    exact h.baseFresh k' (Nat.le_of_succ_le hk')
  · obtain ⟨k', hk', hl⟩ := h.sockets t' ht'
    refine ⟨k', hk', ?_⟩
    by_cases hkk : k' = k
    · subst hkk
      simp [boundTsn, boundBase]
    · simpa [boundTsn, boundBase, hkk] using hl
  · rw [hlist, List.mem_append, List.mem_singleton, Prod.mk.injEq, h.listed]
    constructor
    · rintro (⟨ht', hp⟩ | ⟨rfl, rfl⟩)
      · have hne : t' ≠ t := by
          rintro rfl
          rw [hunbound] at hp
          cases hp
        exact ⟨ht', (hother t' ht' hne).trans hp⟩
      · exact ⟨ht, hself⟩
    · rintro ⟨ht', hp⟩
      by_cases hne : t' = t
      · subst hne
        rw [hself] at hp
        exact Or.inr ⟨(Option.some.inj hp).symm, rfl⟩
      · exact Or.inl ⟨ht', (hother t' ht' hne).symm.trans hp⟩
  · rw [hlist, List.map_append]
    refine nodup_append_singleton.mpr ⟨fun hc => ?_, h.once⟩
    obtain ⟨⟨p, t'⟩, hmem, rfl⟩ := List.mem_map.mp hc
    rw [((h.listed p t').mp hmem).2] at hunbound
    cases hunbound
  · rw [hlist, List.map_append]
    refine nodup_append_singleton.mpr ⟨fun hc => ?_, h.keys⟩
    obtain ⟨⟨p, t'⟩, hmem, rfl⟩ := List.mem_map.mp hc
    obtain ⟨ht', hp⟩ := (h.listed p t').mp hmem
    exact hnew t' ht' hp
  · have hudp : (boundTsn w t k x usPort).xBoundUDPSocketsList = w.xBoundUDPSocketsList ++ [(usPort, k)] := rfl
    rw [portOf_boundTsn] at hp
    rw [hudp, List.mem_append, List.mem_singleton]
    split at hp
    · rename_i hkk
      rw [hkk, Option.some.inj hp]
      exact Or.inr rfl
    · exact Or.inl (h.udp t' ht' k' p hk' hp)

theorem closed (h : SocketsInv w opened) (ht : t ∈ opened) {k : SockId} {x : BaseSocket} (hk : baseOf w t = some k) :
    SocketsInv (closedBase (unlisted w t) k x) (opened.filter (· ≠ t)) := by
  have hmem : ∀ t', t' ∈ opened.filter (· ≠ t) ↔ t' ∈ opened ∧ t' ≠ t := by simp
  have hbase : ∀ t', baseOf (closedBase (unlisted w t) k x) t' = baseOf w t' := fun _ => rfl
  have hne : ∀ t' ∈ opened, t' ≠ t → ∀ k', baseOf w t' = some k' → k' ≠ k := by
    rintro t' ht' hne k' hk' rfl
    exact hne (h.own t' ht' t ht k' hk' hk)
  have hsame : ∀ k', k' ≠ k → (closedBase (unlisted w t) k x).baseSockets k' = w.baseSockets k' :=
    fun k' hkk => Function.update_of_ne hkk _ _
  have hlist : (closedBase (unlisted w t) k x).xTSNBoundUDPSocketList =
      w.xTSNBoundUDPSocketList.filter fun e => e.2 != t := rfl
  have hport : ∀ t' ∈ opened, t' ≠ t → boundPort (closedBase (unlisted w t) k x) t' = boundPort w t' := by
    intro t' ht' hnt
    obtain ⟨k', hk', -⟩ := h.sockets t' ht'
    rw [boundPort_of_base ((hbase t').trans hk'), portOf_congr (hsame k' (hne t' ht' hnt k' hk')),
      boundPort_of_base hk']
  refine ⟨h.heapFresh, fun k' hk' => ?_, h.nodup.filter _, fun t' ht' => ?_, fun t₁ h₁ t₂ h₂ => ?_, fun p t' => ?_,
    ?_, ?_, fun t' ht' k' p hk' hp => ?_⟩
  · by_cases hkk : k' = k
    · subst hkk
      simp [closedBase]
    · rw [hsame k' hkk]
      exact h.baseFresh k' hk'
  · obtain ⟨ho, hnt⟩ := (hmem t').mp ht'
    obtain ⟨k', hk', hl⟩ := h.sockets t' ho
    exact ⟨k', hk', by rw [hsame k' (hne t' ho hnt k' hk')]; exact hl⟩
  · exact h.own t₁ ((hmem t₁).mp h₁).1 t₂ ((hmem t₂).mp h₂).1
  · rw [hlist, List.mem_filter, h.listed, hmem, bne_iff_ne]
    constructor
    · rintro ⟨⟨ho, hp⟩, hnt⟩
      exact ⟨⟨ho, hnt⟩, (hport t' ho hnt).trans hp⟩
    · rintro ⟨⟨ho, hnt⟩, hp⟩
      exact ⟨⟨ho, (hport t' ho hnt).symm.trans hp⟩, hnt⟩
  · rw [hlist]
    exact h.once.sublist (List.filter_sublist.map _)
  · rw [hlist]
    exact h.keys.sublist (List.filter_sublist.map _)
  · obtain ⟨ho, hnt⟩ := (hmem t').mp ht'
    have hkk := hne t' ho hnt k' hk'
    rw [portOf_congr (hsame k' hkk)] at hp
    exact List.mem_filter.mpr ⟨h.udp t' ho k' p hk' hp, by simpa using hkk⟩

theorem start (h : StartsSockets w) : SocketsInv w [] where
  heapFresh := h.heap
  baseFresh := h.baseSockets
  nodup := List.nodup_nil
  sockets := by simp
  own := by simp
  listed := by simp [h.tsn]
  once := by simp [h.tsn]
  keys := by simp [h.tsn]
  udp := by simp

theorem tableExact (h : SocketsInv w opened) : TableExact w opened where
  listed := h.listed
  once := h.once
  keys := h.keys
  found usPort t ht hp := by
    obtain ⟨s, -, hs, -⟩ := h.open_heap ht
    have hl := prvLookup_of_mem h.keys ((h.listed usPort t).mpr ⟨ht, hp⟩)
    rw [run_vSocketFromPort_tsn hl hs, baseOf_of_heap hs]
  notFound usPort hno := by
    have hl : prvLookup usPort w.xTSNBoundUDPSocketList = none := by
      rw [prvLookup_eq_none]
      intro t hmem
      obtain ⟨ht, hp⟩ := (h.listed usPort t).mp hmem
      exact hno t ht hp
    exact run_vSocketFromPort_plain hl

/-- A call that closes no unbound socket ends. -/
theorem call (h : SocketsInv w opened) {c : SocketCall} (hv : c.Valid opened) (hc : c.ClosesBound w) :
    ∃ opened' w', (c.run cfg opened).run w = .ok opened' w' ∧ SocketsInv w' opened' := by
  cases c with
  | socket bIsIPv6 xType =>
      obtain ⟨r, w', hrun, ho⟩ := freeRtosTsnSocket_cases (h.heapFresh _ (Nat.le_refl _)) bIsIPv6 xType
      rw [SocketCall.run, run_bind_ok hrun]
      cases ho with
      | refused _ heq hle => exact ⟨_, _, rfl, h.refused heq hle⟩
      | noQueue _ _ => exact ⟨_, _, rfl, h.stray _⟩
      | created _ hs _ hb => exact ⟨_, _, rfl, h.created hs hb⟩
  | bind t sinPort =>
      obtain ⟨s, x, hs, hx⟩ := h.open_heap hv
      rw [SocketCall.run]
      rcases freeRtosTsnBind_cases hs hx sinPort with hfail | ⟨hb, usPort, hfree, hok⟩
      · rw [run_bind_ok hfail]
        exact ⟨_, _, rfl, h.refused rfl (Nat.le_succ _)⟩
      · rw [run_bind_ok hok]
        exact ⟨_, _, rfl, h.bound hv (baseOf_of_heap hs) hx hb hfree⟩
  | closesocket t =>
      obtain ⟨usPort, hp⟩ := hc
      obtain ⟨s, x, hs, hx⟩ := h.open_heap hv
      have hlisted := (h.listed usPort t).mpr ⟨hv, hp⟩
      rw [SocketCall.run, run_bind_ok (run_freeRtosTsnClosesocket ⟨usPort, hlisted⟩ hs hx)]
      exact ⟨_, _, rfl, h.closed hv (baseOf_of_heap hs)⟩

/-- The item of an unbound socket is in no list. -/
theorem call_faults (h : SocketsInv w opened) {c : SocketCall} (hc : ¬c.ClosesBound w) :
    (c.run cfg opened).run w = .error .heap w := by
  cases c with
  | socket _ _ => exact absurd trivial hc
  | bind _ _ => exact absurd trivial hc
  | closesocket t =>
      have hnot : ¬∃ p, (p, t) ∈ w.xTSNBoundUDPSocketList := by
        rintro ⟨p, hmem⟩
        exact hc ⟨p, ((h.listed p t).mp hmem).2⟩
      rw [SocketCall.run, run_bind_error]
      rw [freeRtosTsnClosesocket, run_bind_error]
      exact run_vTsnSocketRemove_unlisted hnot

theorem step (h : SocketsInv w opened) {c : SocketCall} (hv : c.Valid opened) {opened' : List Addr}
    (hrun : (c.run cfg opened).run w = .ok opened' w') : SocketsInv w' opened' := by
  by_cases hc : c.ClosesBound w
  · obtain ⟨_, _, hrun', h'⟩ := h.call hv hc
    cases hrun'.symm.trans hrun
    exact h'
  · cases (h.call_faults hc).symm.trans hrun

theorem run {w₀ : World} (h₀ : StartsSockets w₀) (hrun : SocketRun cfg w₀ w opened) : SocketsInv w opened := by
  induction hrun with
  | start => exact start h₀
  | call _ hv hcall ih => exact ih.step hv hcall

end SocketsInv

end FreeRtosTsn.Resources
