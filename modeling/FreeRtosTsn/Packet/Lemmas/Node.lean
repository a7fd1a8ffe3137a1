import FreeRtosTsn.Packet.Lemmas.Flight
import FreeRtosTsn.Packet.Lemmas.Sockets

/-!
# Items in flight

What every step of a node keeps: the items in flight are as they were received, and a listed socket has a base socket.
-/

namespace FreeRtosTsn.Packet

open Lib Kernel

variable {cfg : Config} {socks : Addr → Option TSNSocket} {N N' : Node} {w w' : World}

theorem Parses.unique {b : BufId} {f f' : ParsedFrame} (h : Parses w b f) (h' : Parses w b f') : f = f' := by
  obtain ⟨w₁, h⟩ := h
  obtain ⟨w₂, h'⟩ := h'
  rw [h] at h'
  cases h'
  rfl

/-- The base socket is bound in these phases. -/
def SocketPhase.isOpen : SocketPhase → Bool
  | .binding => true
  | .listed => true
  | .closing => true
  | .unbound => false
  | .closed => false

structure NodeInv (socks : Addr → Option TSNSocket) (N : Node) : Prop where
  heapOk : HeapOk N.w
  timebase : TimebaseOk N.w
  sockets : ∀ {t s}, socks t = some s → N.w.heap t = some (.tsnSocket s)
  own : ∀ {t t' s s'}, socks t = some s → socks t' = some s' → s.xBaseSocket = s'.xBaseSocket → t = t'
  known : ∀ {t}, N.phase t ≠ .unbound → ∃ s, socks t = some s
  listed : ∀ e ∈ N.w.xTSNBoundUDPSocketList, N.phase e.2 = .listed
  base : ∀ {t s}, socks t = some s → (N.phase t).isOpen →
    ∃ x, N.w.baseSockets s.xBaseSocket = some x ∧ x.bBound = true
  flights : ∀ {b x}, N.inFlight b = some x → FlightOk N.w b x
  once : ∀ {b c x y a}, N.inFlight b = some x → N.inFlight c = some y → x.pxMsgh = some a → y.pxMsgh = some a → b = c

theorem NodeStart.inv (h : NodeStart socks N) : NodeInv socks N where
  heapOk := h.heapOk
  timebase := h.timebase
  sockets := h.sockets _ _
  own := h.own _ _ _ _
  known hp := absurd (h.phase _) hp
  listed e he := by
    rw [h.tsn] at he
    exact nomatch he
  base _ hp := by
    rw [h.phase] at hp
    exact nomatch hp
  flights hx := by
    rw [h.inFlight] at hx
    exact nomatch hx
  once hx := by
    rw [h.inFlight] at hx
    exact nomatch hx

namespace NodeInv

variable {t : Addr} {s : TSNSocket} {b : BufId}

theorem listed_known (h : NodeInv socks N) {e : UInt16 × Addr} (he : e ∈ N.w.xTSNBoundUDPSocketList) :
    ∃ s, socks e.2 = some s := by
  apply h.known
  rw [h.listed e he]
  exact SocketPhase.noConfusion

theorem listedOk (h : NodeInv socks N) : ListedOk N.w := by
  intro e he
  obtain ⟨s, hs⟩ := h.listed_known he
  obtain ⟨x, hx, -⟩ := h.base hs (by rw [h.listed e he]; rfl)
  exact ⟨s, x, h.sockets hs, hx⟩

theorem msgh_ne (h : NodeInv socks N) {c : BufId} {x y : Flight} {a : Addr} (hx : N.inFlight b = some x)
    (hy : N.inFlight c = some y) (hne : c ≠ b) (ha : y.pxMsgh = some a) : x.pxMsgh ≠ some a :=
  fun ha' => hne (h.once hy hx ha ha')

/-! ## Frames -/

/-- A step that is about the item in `b`, which is `o` after it. -/
theorem leaves (h : NodeInv socks N) {p : Option Addr} (hl : Leaves b p N.w w')
    (hp : ∀ c y a, c ≠ b → N.inFlight c = some y → y.pxMsgh = some a → p ≠ some a) {o : Option Flight}
    (ho : ∀ x, o = some x → FlightOk w' b x ∧
      ∀ c y a, c ≠ b → N.inFlight c = some y → y.pxMsgh = some a → x.pxMsgh ≠ some a) :
    NodeInv socks ⟨w', Function.update N.inFlight b o, N.phase⟩ where
  heapOk := hl.heapOk
  timebase := hl.timebase
  sockets := by
    intro t s hs
    apply hl.heap (h.sockets hs)
    intro a m _ hm
    exact h.heapOk.toMsgHeap.tsnSocket_notMem_blocks hm (h.sockets hs)
  own := h.own
  known := h.known
  listed := by
    rw [hl.tsn]
    exact h.listed
  base := by
    intro t s hs hopen
    obtain ⟨x, hx, hb⟩ := h.base hs hopen
    obtain ⟨x', hx', hb'⟩ := hl.base hx
    exact ⟨x', hx', hb'.trans hb⟩
  flights := by
    intro c y hy
    dsimp only at hy
    by_cases hcb : c = b
    · subst hcb
      rw [Function.update_self] at hy
      exact (ho y hy).1
    · rw [Function.update_of_ne hcb] at hy
      exact (h.flights hy).leaves hl h.heapOk.toMsgHeap hcb fun a ha => hp c y a hcb hy ha
  once := by
    intro c d y z a hy hz ha ha'
    dsimp only at hy hz
    by_cases hcb : c = b
    · by_cases hdb : d = b
      · rw [hcb, hdb]
      · subst hcb
        rw [Function.update_self] at hy
        rw [Function.update_of_ne hdb] at hz
        exact absurd ha ((ho y hy).2 d z a hdb hz ha')
    · rw [Function.update_of_ne hcb] at hy
      by_cases hdb : d = b
      · subst hdb
        rw [Function.update_self] at hz
        exact absurd ha' ((ho z hz).2 c y a hcb hy ha)
      · rw [Function.update_of_ne hdb] at hz
        exact h.once hy hz ha ha'

theorem arrived_leaves (h : NodeInv socks N) (b : BufId) (d : NetworkBufferDescriptor) (m : Mem) :
    Leaves b none N.w (arrived N.w b d m) where
  heapOk := ⟨h.heapOk.toMsgHeap, h.heapOk.fresh, h.heapOk.freed, h.heapOk.freedOnce⟩
  timebase := h.timebase
  tsn := rfl
  bufs _ hc := Function.update_of_ne hc _ _
  heap hy _ := hy
  base hk := ⟨_, hk, rfl⟩

/-- Where a reception ends, and what it leaves then. -/
theorem receive_cases (h : NodeInv socks N) (b : BufId) (d : NetworkBufferDescriptor) (m : Mem) :
    ∃ f, Parses (arrived N.w b d m) b f ∧
      (HasMsgh (arrived N.w b d m) f → ∃ r w', (prvHandleReceive b).run (arrived N.w b d m) = .ok r w' ∧
        ReceivedAs (arrived N.w b d m) b (hasVector (arrived N.w b d m) f) r w') ∧
      (¬HasMsgh (arrived N.w b d m) f → ∃ w', (prvHandleReceive b).run (arrived N.w b d m) = .error .null w') := by
  have hl := h.arrived_leaves b d m
  apply prvHandleReceive_cases hl.heapOk hl.timebase
  · intro e he
    obtain ⟨s, hs⟩ := h.listed_known (e := e) he
    exact ⟨s, h.sockets hs⟩
  · simp [arrived]

theorem receive (h : NodeInv socks N) {d : NetworkBufferDescriptor} {m : Mem} {f : ParsedFrame}
    {r : Option NetworkQueueItem} (hf : Parses (arrived N.w b d m) b f)
    (hrun : (prvHandleReceive b).run (arrived N.w b d m) = .ok r w') :
    NodeInv socks ⟨w', Function.update N.inFlight b
      (r.map fun xItem => ⟨xItem.pxMsgh, hasVector (arrived N.w b d m) f⟩), N.phase⟩ := by
  obtain ⟨f', hf', hok, hno⟩ := h.receive_cases b d m
  obtain rfl := Parses.unique hf hf'
  by_cases hhas : HasMsgh (arrived N.w b d m) f
  · obtain ⟨r', w'', hrun', hr⟩ := hok hhas
    rw [hrun] at hrun'
    cases hrun'
    apply h.leaves ((h.arrived_leaves b d m).trans hr.leaves)
    · intro c y a _ _ _ hnone
      exact nomatch hnone
    · intro x hx
      obtain ⟨xItem, hxItem, rfl⟩ := Option.map_eq_some_iff.mp hx
      refine ⟨(hr.item xItem hxItem).2, ?_⟩
      intro c y a _ hy ha hnew
      obtain ⟨m', hm', -⟩ := (h.flights hy).msgh a ha
      exact absurd (h.heapOk.lt_calls hm') (Nat.not_lt.mpr (hr.new xItem a hxItem hnew))
  · obtain ⟨w'', hrun'⟩ := hno hhas
    rw [hrun] at hrun'
    exact nomatch hrun'

theorem drop (h : NodeInv socks N) (b : BufId) : NodeInv socks { N with inFlight := Function.update N.inFlight b none } := by
  apply h.leaves (p := none) ((refl_of (FrameStep b) N.w).leaves h.heapOk h.timebase none)
  · intro c y a _ _ _ hnone
    exact nomatch hnone
  · intro x hx
    exact nomatch hx

theorem deliver (h : NodeInv socks N) {x : Flight} {xUsingIPTask : Bool} (hb : N.inFlight b = some x)
    (hrun : (prvDeliverFrame cfg (rxItem b x.pxMsgh) xUsingIPTask).run N.w = .ok () w') :
    NodeInv socks ⟨w', Function.update N.inFlight b none, N.phase⟩ := by
  have hgood : ForTsnSocket N.w b → x.bVector = true := by
    intro hfor
    by_contra hv
    obtain ⟨e, w'', hstop⟩ := prvDeliverFrame_stopped cfg h.listedOk (h.flights hb) hfor (by simpa using hv)
      xUsingIPTask
    rw [hrun] at hstop
    exact nomatch hstop
  obtain ⟨w'', hrun', hl⟩ := prvDeliverFrame_ok cfg h.heapOk h.timebase h.listedOk (h.flights hb) hgood xUsingIPTask
  rw [hrun] at hrun'
  cases hrun'
  apply h.leaves hl
  · intro c y a hcb hy ha
    exact h.msgh_ne hb hy hcb ha
  · intro y hy
    exact nomatch hy

/-! ## Sockets -/

/-- Only the sockets and what was released changed. -/
structure SocketsOnly (w w' : World) : Prop where
  eq : w' = { w with
    calls := w'.calls, baseSockets := w'.baseSockets, xBoundUDPSocketsList := w'.xBoundUDPSocketsList,
    xTSNBoundUDPSocketList := w'.xTSNBoundUDPSocketList, released := w'.released }
  calls_le : w.calls ≤ w'.calls

theorem socketsOnly (h : NodeInv socks N) (hs : SocketsOnly N.w w') {phase' : Addr → SocketPhase}
    (hknown : ∀ {t}, phase' t ≠ .unbound → ∃ s, socks t = some s)
    (hlisted : ∀ e ∈ w'.xTSNBoundUDPSocketList, phase' e.2 = .listed)
    (hbase : ∀ {t s}, socks t = some s → (phase' t).isOpen →
      ∃ x, w'.baseSockets s.xBaseSocket = some x ∧ x.bBound = true) : NodeInv socks ⟨w', N.inFlight, phase'⟩ where
  heapOk := by
    have hok := h.heapOk
    refine ⟨by rw [hs.eq]; exact hok.toMsgHeap, ?_, ?_, by rw [hs.eq]; exact hok.freedOnce⟩
    · intro y hy
      rw [hs.eq]
      exact hok.fresh y (Nat.le_trans hs.calls_le hy)
    · intro y hy
      rw [hs.eq] at hy
      refine ⟨Nat.lt_of_lt_of_le (hok.freed y hy).1 hs.calls_le, ?_⟩
      rw [hs.eq]
      exact (hok.freed y hy).2
  timebase := by
    rw [hs.eq]
    exact h.timebase
  sockets := by
    rw [hs.eq]
    exact h.sockets
  own := h.own
  known := hknown
  listed := hlisted
  base := hbase
  flights := by
    intro b x hx
    have hf := h.flights hx
    rw [hs.eq]
    refine ⟨hf.pucEthernetBuffer, hf.vector, ?_⟩
    intro a ha
    obtain ⟨m, hm, hflags, hv⟩ := hf.msgh a ha
    refine ⟨m, hm, hflags, ?_⟩
    by_cases hb : x.bVector = true
    · rw [if_pos hb] at hv ⊢
      obtain ⟨i, n, hc⟩ := hv
      exact ⟨i, n, hc.msghdr, hc.msgFlags, hc.msgIov, hc.msgIovlen, hc.iovec⟩
    · rw [if_neg hb] at hv ⊢
      exact hv
  once := h.once

/-- A socket gets into another phase, and nobody else's base socket changes. -/
theorem setPhase (h : NodeInv socks N) (hs : SocketsOnly N.w w') (ht : socks t = some s) {p : SocketPhase}
    (hself : ∀ e ∈ w'.xTSNBoundUDPSocketList, e.2 = t → p = .listed)
    (hrest : ∀ e ∈ w'.xTSNBoundUDPSocketList, e.2 ≠ t → e ∈ N.w.xTSNBoundUDPSocketList)
    (hopen : p.isOpen → ∃ x, w'.baseSockets s.xBaseSocket = some x ∧ x.bBound = true)
    (hother : ∀ k, k ≠ s.xBaseSocket → w'.baseSockets k = N.w.baseSockets k) :
    NodeInv socks ⟨w', N.inFlight, Function.update N.phase t p⟩ := by
  apply h.socketsOnly hs
  · intro t' hp
    by_cases htt : t' = t
    · subst htt
      exact ⟨s, ht⟩
    · rw [Function.update_of_ne htt] at hp
      exact h.known hp
  · intro e he
    by_cases htt : e.2 = t
    · rw [htt, Function.update_self]
      exact hself e he htt
    · rw [Function.update_of_ne htt]
      exact h.listed e (hrest e he htt)
  · intro t' s' ht' hp
    by_cases htt : t' = t
    · subst htt
      rw [ht] at ht'
      cases ht'
      rw [Function.update_self] at hp
      exact hopen hp
    · rw [Function.update_of_ne htt] at hp
      rw [hother _ fun he => htt (h.own ht' ht he)]
      exact h.base ht' hp

theorem bindBase (h : NodeInv socks N) (ht : socks t = some s) {sinPort : UInt16} {bOk : Bool}
    (hrun : (freeRtosBind s.xBaseSocket sinPort).run N.w = .ok bOk w') :
    NodeInv socks ⟨w', N.inFlight, if bOk then Function.update N.phase t .binding else N.phase⟩ := by
  obtain ⟨x, hx, hw'⟩ := freeRtosBind_inv hrun
  cases bOk with
  | false =>
      rw [if_neg (by decide)] at hw' ⊢
      subst hw'
      have hs : SocketsOnly N.w N.w.tick := ⟨rfl, Nat.le_succ _⟩
      exact h.socketsOnly hs h.known h.listed h.base
  | true =>
      rw [if_pos rfl] at hw' ⊢
      obtain ⟨hb, usPort, rfl⟩ := hw'
      have hs : SocketsOnly N.w (boundBase N.w s.xBaseSocket x usPort) := ⟨rfl, Nat.le_succ _⟩
      apply h.setPhase hs ht
      · -- The base socket of a listed socket is bound already.
        intro e he het
        subst het
        obtain ⟨x', hx', hb'⟩ := h.base ht (by rw [h.listed e he]; rfl)
        rw [hx] at hx'
        cases hx'
        rw [hb] at hb'
        exact nomatch hb'
      · intro e he _
        exact he
      · intro _
        exact ⟨_, Function.update_self _ _ _, rfl⟩
      · intro k hk
        exact Function.update_of_ne hk _ _

theorem bindList (h : NodeInv socks N) (hp : N.phase t = .binding) (hrun : (vTsnSocketInsert t).run N.w = .ok () w') :
    NodeInv socks ⟨w', N.inFlight, Function.update N.phase t .listed⟩ := by
  obtain ⟨s, ht⟩ := h.known (t := t) (by rw [hp]; exact SocketPhase.noConfusion)
  obtain ⟨x, hx, rfl⟩ := vTsnSocketInsert_inv (h.sockets ht) hrun
  have hs : SocketsOnly N.w (N.w.setTsnBound (N.w.xTSNBoundUDPSocketList ++ [(swap16 x.usLocalPort, t)])) :=
    ⟨rfl, Nat.le_refl _⟩
  apply h.setPhase hs ht
  · intro _ _ _
    rfl
  · intro e he hne
    rw [World.setTsnBound_xTSNBoundUDPSocketList, List.mem_append, List.mem_singleton] at he
    exact he.resolve_right fun he' => hne (by rw [he'])
  · intro _
    exact h.base ht (by rw [hp]; rfl)
  · intro k _
    rfl

theorem closeList (h : NodeInv socks N) (hrun : (vTsnSocketRemove t).run N.w = .ok () w') :
    NodeInv socks ⟨w', N.inFlight, Function.update N.phase t .closing⟩ := by
  obtain ⟨⟨port, hmem⟩, rfl⟩ := vTsnSocketRemove_inv hrun
  obtain ⟨s, ht⟩ := h.listed_known hmem
  have hs : SocketsOnly N.w (unlisted N.w t) := ⟨rfl, Nat.le_refl _⟩
  apply h.setPhase hs ht
  · intro e he het
    obtain ⟨-, hne⟩ := List.mem_filter.mp he
    exact absurd het (by simpa using hne)
  · intro e he _
    exact (List.mem_filter.mp he).1
  · intro _
    exact h.base ht (by rw [h.listed _ hmem]; rfl)
  · intro k _
    rfl

theorem closeBase (h : NodeInv socks N) (ht : socks t = some s) (hp : N.phase t = .closing)
    (hrun : (freeRtosClosesocket s.xBaseSocket).run N.w = .ok () w') :
    NodeInv socks ⟨w', N.inFlight, Function.update N.phase t .closed⟩ := by
  obtain ⟨x, -, rfl⟩ := freeRtosClosesocket_inv hrun
  have hs : SocketsOnly N.w (closedBase N.w s.xBaseSocket x) := ⟨rfl, Nat.le_refl _⟩
  apply h.setPhase hs ht
  · intro e he het
    have hl := h.listed e he
    rw [het, hp] at hl
    exact nomatch hl
  · intro e he _
    exact he
  · intro hopen
    exact nomatch hopen
  · intro k hk
    exact Function.update_of_ne hk _ _

theorem step (h : NodeInv socks N) (hst : NodeStep cfg socks N N') : NodeInv socks N' := by
  cases hst with
  | receive _ hf hrun => exact h.receive hf hrun
  | drop => exact h.drop _
  | deliver hb hrun => exact h.deliver hb hrun
  | bindBase ht hrun => exact h.bindBase ht hrun
  | bindList hp hrun => exact h.bindList hp hrun
  | closeList hrun => exact h.closeList hrun
  | closeBase ht hp hrun => exact h.closeBase ht hp hrun

/-! ## The contract of the delivery -/

theorem delivers_iff (h : NodeInv socks N) {x : Flight} (hb : N.inFlight b = some x) :
    DeliversWell cfg N.w b x.pxMsgh ↔ (ForTsnSocket N.w b → x.bVector = true) := by
  have hf := h.flights hb
  constructor
  · rintro ⟨-, hok⟩ hfor
    by_contra hv
    obtain ⟨w', hrun⟩ := hok true
    obtain ⟨e, w'', hstop⟩ := prvDeliverFrame_stopped cfg h.listedOk hf hfor (by simpa using hv) true
    rw [hrun] at hstop
    exact nomatch hstop
  · intro hgood
    constructor
    · intro hfor
      have hv := hgood hfor
      obtain ⟨a, ha⟩ := Option.ne_none_iff_exists'.mp (hf.vector hv)
      obtain ⟨m, hm, -, hc⟩ := hf.msgh a ha
      rw [if_pos hv] at hc
      obtain ⟨i, n, hc⟩ := hc
      exact ⟨a, m, i, _, [], ha, hm, hc.msgIov, hc.iovec, hf.pucEthernetBuffer.symm⟩
    · intro xUsingIPTask
      obtain ⟨w', hrun, -⟩ := prvDeliverFrame_ok cfg h.heapOk h.timebase h.listedOk hf hgood xUsingIPTask
      exact ⟨w', hrun⟩

theorem receives_iff (h : NodeInv socks N) (b : BufId) (d : NetworkBufferDescriptor) (m : Mem) :
    ∃ f, Parses (arrived N.w b d m) b f ∧
      (ReceivesWell (arrived N.w b d m) b ↔ HasMsgh (arrived N.w b d m) f) := by
  obtain ⟨f, hf, hok, hno⟩ := h.receive_cases b d m
  refine ⟨f, hf, ?_, ?_⟩
  · rintro ⟨r, w', hrun⟩
    by_contra hhas
    obtain ⟨w'', hstop⟩ := hno hhas
    rw [hrun] at hstop
    exact nomatch hstop
  · intro hhas
    obtain ⟨r, w', hrun, -⟩ := hok hhas
    exact ⟨r, w', hrun⟩

end NodeInv

end FreeRtosTsn.Packet
