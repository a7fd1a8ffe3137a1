import FreeRtosTsn.Lib.Places
import FreeRtosTsn.Packet.Lemmas.Recvmsg
import FreeRtosTsn.Packet.Lemmas.Sockets

/-!
# Packets over a run

From its delivery on, a packet waits until it is taken or the socket is closed.
-/

namespace FreeRtosTsn.Packet

open Lib Kernel

variable {cfg : Config} {w w' : World} {t : Addr} {s : TSNSocket} {hs : Handed}

structure SocketInv (t : Addr) (s : TSNSocket) (w : World) (hs : Handed) : Prop
    extends PacketsOk s.xBaseSocket w hs where
  heapOk : HeapOk w
  socket : w.heap t = some (.tsnSocket s)
  errors : ErrorsOk w s.xErrQueue
  waitingOnce : (Packet.waiting w s.xBaseSocket).Nodup
  handedOnce : ∀ {b a a'}, (b, a) ∈ hs → (b, a') ∈ hs → a = a'

theorem SocketStart.inv (h : SocketStart t s w) : SocketInv t s w [] where
  waiting b hb := by
    rw [h.waiting] at hb
    exact nomatch hb
  released _ _ _ hh := nomatch hh
  heapOk := h.heapOk
  socket := h.socket
  errors := h.errors
  waitingOnce := by
    rw [h.waiting]
    exact List.nodup_nil
  handedOnce hh := nomatch hh

/-- A message that was freed once before is not freed again. -/
theorem count_of_prefix {xs ys : List Addr} (h : xs <+: ys) (hys : ys.Nodup) {a : Addr} (ha : xs.count a = 1) :
    ys.count a = 1 := by
  apply List.count_eq_one_of_mem hys
  apply h.subset
  apply List.count_pos_iff.mp
  rw [ha]
  exact Nat.one_pos

/-- A message refers to one frame. -/
theorem Carries.frame_unique {a i i' : Addr} {b b' : BufId} {m m' : Msghdr} {n n' : Nat} (h : Carries w a b m i n)
    (h' : Carries w a b' m' i' n') : b = b' := by
  have hm := h.msghdr
  rw [h'.msghdr] at hm
  cases hm
  have hi := h.msgIov
  rw [h'.msgIov] at hi
  cases hi
  have hv := h.iovec
  rw [h'.iovec] at hv
  cases hv
  rfl

theorem waiting_of_base {k : SockId} {x : BaseSocket} (h : w.baseSockets k = some x) :
    waiting w k = x.xWaitingPacketsList := by
  rw [waiting, h]

theorem waiting_congr {k : SockId} (h : w'.baseSockets k = w.baseSockets k) : waiting w' k = waiting w k := by
  rw [waiting, waiting, h]

namespace SocketInv

theorem others (h : SocketInv t s w hs) (ho : OthersRan t s hs w w') : SocketInv t s w' hs where
  waiting := by
    intro b hb
    rw [ho.waiting] at hb
    obtain ⟨a, m, i, n, hh, hp, hc⟩ := h.waiting b hb
    obtain ⟨hm, hparts⟩ := ho.msghdr b hb a m hp hc.msghdr
    refine ⟨a, m, i, n, hh, ?_, hm, hc.msgFlags, hc.msgIov, hc.msgIovlen, ?_⟩
    · rw [ho.bufs b hb]
      exact hp
    · rw [hparts .iov i hc.msgIov]
      exact hc.iovec
  released := by
    intro b a p hh hr
    rcases ho.released _ hr with hold | hnew
    · obtain ⟨hp, ha⟩ := h.released b a p hh hold
      exact ⟨hp, count_of_prefix ho.freed ho.heapOk.freedOnce ha⟩
    · exact absurd rfl (hnew _ hh)
  heapOk := ho.heapOk
  socket := ho.socket.trans h.socket
  errors := ho.errors
  waitingOnce := by
    rw [ho.waiting]
    exact h.waitingOnce
  handedOnce := h.handedOnce

theorem receive (h : SocketInv t s w hs) {b : BufId} {a i : Addr} {m : Msghdr} {n : Nat} (hc : Carries w a b m i n)
    (hnew : ∀ e ∈ hs, e.1 ≠ b) (hlive : ∀ e ∈ w.released, e.1 ≠ b) {x : BaseSocket}
    (hx : w.baseSockets s.xBaseSocket = some x) :
    SocketInv t s (waitingAfter w b a s.xBaseSocket x) ((b, a) :: hs) := by
  have hw : Packet.waiting (waitingAfter w b a s.xBaseSocket x) s.xBaseSocket =
      Packet.waiting w s.xBaseSocket ++ [b] := by
    simp [Packet.waiting, waitingAfter, hx]
  have hb : b ∉ Packet.waiting w s.xBaseSocket := by
    intro hmem
    obtain ⟨a', -, -, -, hh, -⟩ := h.waiting b hmem
    exact hnew _ hh rfl
  constructor
  · constructor
    · intro c hcw
      rw [hw, List.mem_append, List.mem_singleton] at hcw
      rcases hcw with hcw | rfl
      · obtain ⟨a', m', i', n', hh, hp, hc'⟩ := h.waiting c hcw
        have hne : c ≠ b := fun he => hb (he ▸ hcw)
        refine ⟨a', m', i', n', List.mem_cons_of_mem _ hh, ?_, hc'.msghdr, hc'.msgFlags, hc'.msgIov, hc'.msgIovlen,
          hc'.iovec⟩
        rw [waitingAfter, World.setBaseSocket_bufs, World.setBuf_bufs, Function.update_of_ne hne]
        exact hp
      · refine ⟨a, m, i, n, List.mem_cons_self, ?_, hc.msghdr, hc.msgFlags, hc.msgIov, hc.msgIovlen, hc.iovec⟩
        rw [waitingAfter, World.setBaseSocket_bufs, World.setBuf_bufs, Function.update_self]
    · intro c a' p hh hr
      rcases List.mem_cons.mp hh with hh | hh
      · cases hh
        exact absurd rfl (hlive _ hr)
      · exact h.released c a' p hh hr
  · exact ⟨h.heapOk.toMsgHeap, h.heapOk.fresh, h.heapOk.freed, h.heapOk.freedOnce⟩
  · exact h.socket
  · exact ⟨h.errors.noVector, h.errors.once⟩
  · rw [hw]
    exact nodup_append_singleton.mpr ⟨hb, h.waitingOnce⟩
  · intro c a₁ a₂ h₁ h₂
    rcases List.mem_cons.mp h₁ with h₁ | h₁
    · rcases List.mem_cons.mp h₂ with h₂ | h₂
      · cases h₁
        cases h₂
        rfl
      · cases h₁
        exact absurd rfl (hnew _ h₂)
    · rcases List.mem_cons.mp h₂ with h₂ | h₂
      · cases h₂
        exact absurd rfl (hnew _ h₁)
      · exact h.handedOnce h₁ h₂

theorem tsnSocketOk (h : SocketInv t s w hs) {x : BaseSocket} (hx : w.baseSockets s.xBaseSocket = some x) :
    TsnSocketOk w t s x where
  heapOk := h.heapOk
  socket := h.socket
  base := hx
  waiting := by
    intro b hb
    rw [← waiting_of_base hx] at hb
    obtain ⟨a, m, i, n, -, hp, hc⟩ := h.waiting b hb
    exact ⟨a, m, i, n, hp, hc⟩
  errors := h.errors

theorem error (h : SocketInv t s w hs) {e : Addr} {es : List Addr} {m : Msghdr}
    (hq : w.errQueues s.xErrQueue = e :: es) (he : w.heap e = some (.msghdr m)) (hi : m.msgIov = none)
    (htaken : Taken (w.setErrQueue s.xErrQueue es) w' e m none) : SocketInv t s w' hs where
  waiting := by
    intro b hb
    have hbase : w'.baseSockets s.xBaseSocket = w.baseSockets s.xBaseSocket := by
      rw [htaken.eq]
      rfl
    rw [waiting_congr hbase] at hb
    obtain ⟨a, m', i, n, hh, hp, hc⟩ := h.waiting b hb
    refine ⟨a, m', i, n, hh, ?_, (htaken.keeps_carries h.heapOk he hi hc).2⟩
    rw [htaken.eq]
    exact hp
  released := by
    intro b a p hh hr
    have hsame : w'.released = w.released := by
      rw [htaken.released]
      simp
    rw [hsame] at hr
    obtain ⟨hp, ha⟩ := h.released b a p hh hr
    refine ⟨hp, count_of_prefix ?_ htaken.heapOk.freedOnce ha⟩
    rw [htaken.freed]
    exact List.prefix_append _ _
  heapOk := htaken.heapOk
  socket := htaken.tsnSocket h.heapOk.toMsgHeap he h.socket
  errors := htaken.errorsOk h.heapOk hq he h.errors
  waitingOnce := by
    have hbase : w'.baseSockets s.xBaseSocket = w.baseSockets s.xBaseSocket := by
      rw [htaken.eq]
      rfl
    rw [waiting_congr hbase]
    exact h.waitingOnce
  handedOnce := h.handedOnce

section Packet

variable {x : BaseSocket} {b : BufId} {rest : List BufId} {xFlags : Nat} {a i : Addr} {m : Msghdr} {n : Nat}
  (h : SocketInv t s w hs) (hw : Packet.waiting w s.xBaseSocket = b :: rest)
  (hp : (w.bufs b).pucEthernetBuffer = .blk a) (hc : Carries w a b m i n)
  (htaken : Taken (unswapped w s x b rest xFlags) w' a m (some b))
include h hc htaken

/-- A block that belongs to another message is the same when the message is taken. -/
theorem packet_other {a' : Addr} {m' : Msghdr} (hm : w.heap a' = some (.msghdr m')) (hne : a' ≠ a) {y : Addr}
    (hy : y ∈ blocks a' m') : w'.heap y = w.heap y := by
  have hheap : (unswapped w s x b rest xFlags).heap = w.heap := unswapped_heap
  have hok : HeapOk (unswapped w s x b rest xFlags) := h.heapOk.unswapped
  rw [htaken.other hok.toMsgHeap (by rw [hheap]; exact hc.msghdr) (by rw [hheap]; exact hm) hne hy, hheap]

/-- An error message has no vector, so it is not the message that was taken. -/
theorem packet_errors (herr : w'.errQueues = w.errQueues) : ErrorsOk w' s.xErrQueue := by
  refine ⟨?_, by rw [herr]; exact h.errors.once⟩
  intro e he
  rw [herr] at he
  obtain ⟨m', hm', hi'⟩ := h.errors.noVector e he
  have hne : e ≠ a := by
    rintro rfl
    rw [hc.msghdr] at hm'
    cases hm'
    rw [hc.msgIov] at hi'
    cases hi'
  refine ⟨m', ?_, hi'⟩
  rw [packet_other h hc htaken hm' hne (mem_blocks.mpr (.inl rfl))]
  exact hm'

include hw

/-- The packets behind the first one are not concerned. -/
theorem packet_behind {c : BufId} (hcr : c ∈ rest) :
    ∃ a' m' i' n', (c, a') ∈ hs ∧ (w'.bufs c).pucEthernetBuffer = .blk a' ∧ Carries w' a' c m' i' n' := by
  have honce := h.waitingOnce
  rw [hw, List.nodup_cons] at honce
  have hne : c ≠ b := fun he => honce.1 (he ▸ hcr)
  obtain ⟨a', m', i', n', hh, hp', hc'⟩ := h.waiting c (by rw [hw]; exact List.mem_cons_of_mem b hcr)
  have haa : a' ≠ a := by
    rintro rfl
    exact hne (hc'.frame_unique hc)
  have hother : ∀ y ∈ blocks a' m', w'.heap y = w.heap y :=
    fun _ hy => packet_other h hc htaken hc'.msghdr haa hy
  refine ⟨a', m', i', n', hh, ?_, ?_, hc'.msgFlags, hc'.msgIov, hc'.msgIovlen, ?_⟩
  · rw [htaken.eq]
    dsimp only
    rw [unswapped_bufs, Function.update_of_ne hne]
    exact hp'
  · rw [hother a' (mem_blocks.mpr (.inl rfl))]
    exact hc'.msghdr
  · rw [hother i' (mem_blocks.mpr (.inr ⟨.iov, hc'.msgIov⟩))]
    exact hc'.iovec

include hp

/-- The first packet is released with its Ethernet buffer, and its message is freed. -/
theorem packet_released {c : BufId} {a' : Addr} {p : Ptr} (hh : (c, a') ∈ hs) (hr : (c, p) ∈ w'.released) :
    p = .eth c 0 ∧ w'.freed.count a' = 1 := by
  have hfreed : w'.freed = w.freed ++ blocks a m := by rw [htaken.freed, unswapped_freed]
  rw [htaken.released, unswapped_released, List.mem_append] at hr
  rcases hr with hr | hr
  · obtain ⟨hp', ha'⟩ := h.released c a' p hh hr
    exact ⟨hp', count_of_prefix (hfreed ▸ List.prefix_append _ _) htaken.heapOk.freedOnce ha'⟩
  · rw [unswapped_bufs] at hr
    have hr' : c = b ∧ p = .eth b 0 := by simpa using hr
    obtain ⟨rfl, rfl⟩ := hr'
    obtain ⟨a'', -, -, -, hh', hp', -⟩ := h.waiting c (by rw [hw]; exact List.mem_cons_self)
    rw [hp] at hp'
    cases hp'
    refine ⟨rfl, ?_⟩
    rw [h.handedOnce hh hh']
    apply List.count_eq_one_of_mem htaken.heapOk.freedOnce
    rw [hfreed]
    exact List.mem_append_right _ (mem_blocks.mpr (.inl rfl))

end Packet

/-- The first packet is taken. -/
theorem packet (h : SocketInv t s w hs) {x : BaseSocket} (hx : w.baseSockets s.xBaseSocket = some x) {b : BufId}
    {rest : List BufId} {xFlags : Nat} (hpeek : hasFlag xFlags freertosMsgPeek = false)
    (hl : x.xWaitingPacketsList = b :: rest) {a i : Addr} {m : Msghdr} {n : Nat}
    (hp : (w.bufs b).pucEthernetBuffer = .blk a) (hc : Carries w a b m i n)
    (htaken : Taken (unswapped w s x b rest xFlags) w' a m (some b)) : SocketInv t s w' hs := by
  have hw : Packet.waiting w s.xBaseSocket = b :: rest := by rw [waiting_of_base hx, hl]
  have hw' : Packet.waiting w' s.xBaseSocket = rest := by
    rw [htaken.eq]
    simp [Packet.waiting, unswapped, hpeek]
  have herr : w'.errQueues = w.errQueues := by
    rw [htaken.eq]
    simp only [unswapped, hpeek]
    rfl
  have honce := h.waitingOnce
  rw [hw, List.nodup_cons] at honce
  refine ⟨⟨?_, fun c a' p => packet_released h hw hp hc htaken⟩, htaken.heapOk, ?_, packet_errors h hc htaken herr, ?_,
    h.handedOnce⟩
  · intro c hcw
    rw [hw'] at hcw
    exact packet_behind h hw hc htaken hcw
  · have hok : HeapOk (unswapped w s x b rest xFlags) := h.heapOk.unswapped
    refine htaken.tsnSocket hok.toMsgHeap ?_ ?_
    · rw [unswapped_heap]
      exact hc.msghdr
    · rw [unswapped_heap]
      exact h.socket
  · rw [hw']
    exact honce.2

theorem recvmsg (h : SocketInv t s w hs) {u : Option UserMsghdr} {xFlags : Nat} {r : Int × Option UserMsghdr}
    (hpeek : hasFlag xFlags freertosMsgPeek = false) (hrun : (freeRtosTsnRecvmsg t u xFlags).run w = .ok r w') :
    SocketInv t s w' hs := by
  have hx : ∃ x, w.baseSockets s.xBaseSocket = some x := by
    rw [freeRtosTsnRecvmsg, run_bind_ok (run_loadTsnSocket h.socket)] at hrun
    obtain ⟨x, w₁, hload, -⟩ := run_bind_inv hrun
    exact ⟨x, (loadBaseSocket_inv hload).2⟩
  obtain ⟨x, hx⟩ := hx
  cases recvmsg_effect (h.tsnSocketOk hx) hrun with
  | unchanged hsame =>
      rw [hsame]
      exact h
  | error hq he hi htaken => exact h.error hq he hi htaken
  | packet hl hp hc htaken => exact h.packet hx hpeek hl hp hc htaken

/-- Nothing is released with a socket at which no packet waits. -/
theorem closesocket (h : SocketInv t s w hs) (hnone : NoneWaiting s.xBaseSocket w)
    (hrun : (freeRtosTsnClosesocket t).run w = .ok () w') : SocketInv t s w' hs := by
  obtain ⟨x, hx, rfl⟩ := freeRtosTsnClosesocket_inv h.socket hrun
  have hw' : Packet.waiting (closedBase (unlisted w t) s.xBaseSocket x) s.xBaseSocket = [] := by
    simp [Packet.waiting, closedBase]
  rw [NoneWaiting, waiting_of_base hx] at hnone
  have hreleased : (closedBase (unlisted w t) s.xBaseSocket x).released = w.released := by
    simp [closedBase, hnone, unlisted]
  constructor
  · constructor
    · intro b hb
      rw [hw'] at hb
      exact nomatch hb
    · intro b a p hh hr
      rw [hreleased] at hr
      exact h.released b a p hh hr
  · exact ⟨h.heapOk.toMsgHeap, h.heapOk.fresh, h.heapOk.freed, h.heapOk.freedOnce⟩
  · exact h.socket
  · exact ⟨h.errors.noVector, h.errors.once⟩
  · rw [hw']
    exact List.nodup_nil
  · exact h.handedOnce

/-- A call keeps the invariant if a socket is closed only when no packet waits. -/
theorem step {c c' : World × Handed} (h : SocketInv t s c.1 c.2)
    (hst : SocketStep cfg t s (NoneWaiting s.xBaseSocket) c c') : SocketInv t s c'.1 c'.2 := by
  cases hst with
  | others ho => exact h.others ho
  | receive hb ha hc hp hnew hlive hrun =>
      rw [prvReceiveUDPPacketTSN_carries hb ha hc hp] at hrun
      obtain ⟨x, hx, rfl⟩ := prvWaitForUser_inv hrun
      exact h.receive hc hnew hlive hx
  | recvmsg hpeek hrun => exact h.recvmsg hpeek hrun
  | closesocket hC hrun => exact h.closesocket hC hrun

/-- A packet that waits when the socket is closed is released with the pointer to its message. -/
theorem closesocket_breaks (h : SocketInv t s w hs) (hsome : ¬NoneWaiting s.xBaseSocket w)
    (hrun : (freeRtosTsnClosesocket t).run w = .ok () w') : ¬PacketsOk s.xBaseSocket w' hs := by
  obtain ⟨x, hx, rfl⟩ := freeRtosTsnClosesocket_inv h.socket hrun
  rw [NoneWaiting, waiting_of_base hx] at hsome
  obtain ⟨b, rest, hl⟩ := List.exists_cons_of_ne_nil hsome
  obtain ⟨a, -, -, -, hh, hp, -⟩ := h.waiting b (by rw [waiting_of_base hx, hl]; exact List.mem_cons_self)
  intro hok
  have hr : (b, Ptr.blk a) ∈ (closedBase (unlisted w t) s.xBaseSocket x).released := by
    simp [closedBase, unlisted, hl, hp]
  exact absurd (hok.released b a _ hh hr).1 (by simp)

end SocketInv

end FreeRtosTsn.Packet
