import FreeRtosTsn.Packet.Lemmas.Take
import FreeRtosTsn.Packet.Lemmas.Deliver
import Mathlib.Data.List.Nodup

/-!
# Calls of `FreeRTOS_TSN_recvmsg`

By its flags, a call takes the first error message, takes the first packet, or breaks it in order to peek.
-/

namespace FreeRtosTsn.Packet

open Lib Kernel

variable {w w' : World} {t a i : Addr} {s : TSNSocket} {x : BaseSocket} {b : BufId} {m : Msghdr} {n xFlags : Nat}
  {u : UserMsghdr} {rest : List BufId}

/-! ## The ways through a call -/

theorem run_recvmsg_unbound (ht : w.heap t = some (.tsnSocket s)) (hx : w.baseSockets s.xBaseSocket = some x)
    (hb : x.bBound = false) (u : Option UserMsghdr) :
    (freeRtosTsnRecvmsg t u xFlags).run w = .ok (-errnoEinval, u) w := by
  rw [freeRtosTsnRecvmsg, run_bind_ok (run_loadTsnSocket ht), run_bind_ok (run_loadBaseSocket hx), hb]
  rfl

theorem run_recvmsg_null (ht : w.heap t = some (.tsnSocket s)) (hx : w.baseSockets s.xBaseSocket = some x)
    (hb : x.bBound = true) : (freeRtosTsnRecvmsg t none xFlags).run w = .ok (-errnoEinval, none) w := by
  rw [freeRtosTsnRecvmsg, run_bind_ok (run_loadTsnSocket ht), run_bind_ok (run_loadBaseSocket hx), if_neg (by simp [hb])]
  rfl

theorem run_recvmsg_noError (ht : w.heap t = some (.tsnSocket s)) (hx : w.baseSockets s.xBaseSocket = some x)
    (hb : x.bBound = true) (hf : hasFlag xFlags freertosMsgErrqueue = true) (hq : w.errQueues s.xErrQueue = []) :
    (freeRtosTsnRecvmsg t (some u) xFlags).run w = .ok (-errnoEagain, some u) w := by
  rw [freeRtosTsnRecvmsg, run_bind_ok (run_loadTsnSocket ht), run_bind_ok (run_loadBaseSocket hx),
    if_neg (by simp [hb])]
  dsimp only
  rw [if_pos hf, run_bind_ok (EStateM.run_get w), hq]
  rfl

theorem run_recvmsg_error (ht : w.heap t = some (.tsnSocket s)) (hx : w.baseSockets s.xBaseSocket = some x)
    (hb : x.bBound = true) (hf : hasFlag xFlags freertosMsgErrqueue = true) {e : Addr} {es : List Addr}
    (hq : w.errQueues s.xErrQueue = e :: es) :
    (freeRtosTsnRecvmsg t (some u) xFlags).run w =
      ((fun r => (r.1, some r.2)) <$> prvTakeMessage e none u).run (w.setErrQueue s.xErrQueue es) := by
  rw [freeRtosTsnRecvmsg, run_bind_ok (run_loadTsnSocket ht), run_bind_ok (run_loadBaseSocket hx),
    if_neg (by simp [hb])]
  dsimp only
  rw [if_pos hf, run_bind_ok (EStateM.run_get w), hq]
  rfl

/-- The state in which the first packet is taken: it is still in the list when it is a peek. -/
def unswapped (w : World) (s : TSNSocket) (x : BaseSocket) (b : BufId) (rest : List BufId) (xFlags : Nat) : World :=
  (if hasFlag xFlags freertosMsgPeek then w
    else w.setBaseSocket s.xBaseSocket (some { x with xWaitingPacketsList := rest })).setBuf b
      { w.bufs b with pucEthernetBuffer := .eth b 0 }

theorem run_recvmsg_packet (ht : w.heap t = some (.tsnSocket s)) (hx : w.baseSockets s.xBaseSocket = some x)
    (hb : x.bBound = true) (hf : hasFlag xFlags freertosMsgErrqueue = false) (hl : x.xWaitingPacketsList = b :: rest)
    (hp : (w.bufs b).pucEthernetBuffer = .blk a) (h : Carries w a b m i n) :
    (freeRtosTsnRecvmsg t (some u) xFlags).run w =
      ((fun r => (r.1, some r.2)) <$> prvTakeMessage a (some b) u).run (unswapped w s x b rest xFlags) := by
  have hof : ∀ w : World, (msghdrOf (.blk a)).run w = .ok a w := fun _ => rfl
  rw [freeRtosTsnRecvmsg, run_bind_ok (run_loadTsnSocket ht), run_bind_ok (run_loadBaseSocket hx),
    if_neg (by simp [hb])]
  simp only [Bool.false_eq_true, if_false, hf, hl]
  cases hpeek : hasFlag xFlags freertosMsgPeek with
  | true =>
      simp only [Bool.not_true, Bool.false_eq_true, if_false]
      rw [run_bind_ok (run_loadBuf w b), hp, run_bind_ok (hof w), run_bind_ok (run_prvIovBase h),
        run_bind_ok (run_modifyBuf _ _ _), unswapped, hpeek, if_pos rfl]
      rfl
  | false =>
      have hstore : ∀ y, (storeBaseSocket s.xBaseSocket y).run w = .ok () (w.setBaseSocket s.xBaseSocket (some y)) :=
        fun _ => rfl
      have h₁ : Carries (w.setBaseSocket s.xBaseSocket (some { x with xWaitingPacketsList := rest })) a b m i n :=
        ⟨h.msghdr, h.msgFlags, h.msgIov, h.msgIovlen, h.iovec⟩
      simp only [Bool.not_false, if_true]
      rw [run_bind_ok (hstore _), run_bind_ok (run_loadBuf _ b), World.setBaseSocket_bufs, hp, run_bind_ok (hof _),
        run_bind_ok (run_prvIovBase h₁), run_bind_ok (run_modifyBuf _ _ _), unswapped, hpeek]
      rfl

/-- The first packet was taken before, by a peek. -/
theorem run_recvmsg_broken (ht : w.heap t = some (.tsnSocket s)) (hx : w.baseSockets s.xBaseSocket = some x)
    (hb : x.bBound = true) (hf : hasFlag xFlags freertosMsgErrqueue = false)
    (hpeek : hasFlag xFlags freertosMsgPeek = true) (hl : x.xWaitingPacketsList = b :: rest)
    (hp : (w.bufs b).pucEthernetBuffer = .eth b 0) :
    (freeRtosTsnRecvmsg t (some u) xFlags).run w = .error .heap w := by
  have hof : (msghdrOf (.eth b 0)).run w = .error .heap w := rfl
  rw [freeRtosTsnRecvmsg, run_bind_ok (run_loadTsnSocket ht), run_bind_ok (run_loadBaseSocket hx),
    if_neg (by simp [hb])]
  simp only [Bool.not_true, Bool.false_eq_true, if_false, hf, hl, hpeek]
  rw [run_bind_ok (run_loadBuf w b), hp, run_bind_error hof]

/-! ## The first error message -/

theorem HeapOk.setErrQueue (h : HeapOk w) (q : QueueHandle) (es : List Addr) : HeapOk (w.setErrQueue q es) :=
  ⟨h.toMsgHeap, h.fresh, h.freed, h.freedOnce⟩

section Error

variable {e : Addr} {es : List Addr} (hw : HeapOk w) (hq : w.errQueues s.xErrQueue = e :: es)
  (he : w.heap e = some (.msghdr m)) (hi : m.msgIov = none)
  (htaken : Taken (w.setErrQueue s.xErrQueue es) w' e m none)
include hw he htaken

theorem Taken.keeps_carries (hi : m.msgIov = none) {m' : Msghdr} (hc : Carries w a b m' i n) :
    a ≠ e ∧ Carries w' a b m' i n := by
  have hne : a ≠ e := by
    rintro rfl
    rw [hc.msghdr] at he
    cases he
    rw [hc.msgIov] at hi
    exact nomatch hi
  exact ⟨hne, htaken.carries (hw.setErrQueue s.xErrQueue es).toMsgHeap he
    ⟨hc.msghdr, hc.msgFlags, hc.msgIov, hc.msgIovlen, hc.iovec⟩ hne⟩

include hq

theorem Taken.errorsOk (h : ErrorsOk w s.xErrQueue) : ErrorsOk w' s.xErrQueue := by
  have hes : w'.errQueues s.xErrQueue = es := by
    rw [htaken.eq]
    simp
  have hnodup := h.once
  rw [hq, List.nodup_cons] at hnodup
  refine ⟨?_, by rw [hes]; exact hnodup.2⟩
  intro e' he'
  rw [hes] at he'
  obtain ⟨m', hm', hi'⟩ := h.noVector e' (by rw [hq]; exact List.mem_cons_of_mem e he')
  have hne : e' ≠ e := by
    rintro rfl
    exact hnodup.1 he'
  refine ⟨m', ?_, hi'⟩
  have hsame := htaken.other hw.toMsgHeap he hm' hne (mem_blocks.mpr (.inl rfl))
  rw [hsame]
  exact hm'

theorem Taken.tsnSocketOk (hi : m.msgIov = none) (h : TsnSocketOk w t s x) : TsnSocketOk w' t s x where
  heapOk := htaken.heapOk
  socket := htaken.tsnSocket hw.toMsgHeap he h.socket
  base := by
    rw [htaken.eq]
    exact h.base
  waiting := by
    intro b hb
    obtain ⟨a, m', i, n, hp, hc⟩ := h.waiting b hb
    refine ⟨a, m', i, n, ?_, (htaken.keeps_carries hw he hi hc).2⟩
    rw [htaken.eq]
    exact hp
  errors := htaken.errorsOk hw hq he h.errors

end Error

theorem recvmsg_error_taken (hw : HeapOk w) (ht : w.heap t = some (.tsnSocket s))
    (hx : w.baseSockets s.xBaseSocket = some x) (hb : x.bBound = true)
    (hf : hasFlag xFlags freertosMsgErrqueue = true) {e : Addr} {es : List Addr}
    (hq : w.errQueues s.xErrQueue = e :: es) (he : w.heap e = some (.msghdr m)) (hi : m.msgIov = none)
    (u : UserMsghdr) :
    ∃ r w', (freeRtosTsnRecvmsg t (some u) xFlags).run w = .ok r w' ∧
      Taken (w.setErrQueue s.xErrQueue es) w' e m none := by
  have hok := hw.setErrQueue s.xErrQueue es
  obtain ⟨r, w', hrun⟩ := run_prvTakeMessage_error (u := u) hok he hi
  obtain ⟨m', he', htaken⟩ := prvTakeMessage_inv hok hrun
  rw [World.setErrQueue_heap, he] at he'
  cases he'
  refine ⟨(r.1, some r.2), w', ?_, htaken⟩
  rw [run_recvmsg_error ht hx hb hf hq, run_map, hrun]

/-! ## The first packet -/

@[simp] theorem unswapped_heap : (unswapped w s x b rest xFlags).heap = w.heap := by
  unfold unswapped
  split <;> rfl

@[simp] theorem unswapped_mem : (unswapped w s x b rest xFlags).mem = w.mem := by
  unfold unswapped
  split <;> rfl

@[simp] theorem unswapped_released : (unswapped w s x b rest xFlags).released = w.released := by
  unfold unswapped
  split <;> rfl

@[simp] theorem unswapped_freed : (unswapped w s x b rest xFlags).freed = w.freed := by
  unfold unswapped
  split <;> rfl

@[simp] theorem unswapped_calls : (unswapped w s x b rest xFlags).calls = w.calls := by
  unfold unswapped
  split <;> rfl

theorem unswapped_bufs : (unswapped w s x b rest xFlags).bufs =
    Function.update w.bufs b { w.bufs b with pucEthernetBuffer := .eth b 0 } := by
  unfold unswapped
  split <;> rfl

theorem HeapOk.unswapped (h : HeapOk w) : HeapOk (unswapped w s x b rest xFlags) where
  toMsgHeap := by
    rw [unswapped_heap]
    exact h.toMsgHeap
  fresh := by
    rw [unswapped_heap, unswapped_calls]
    exact h.fresh
  freed := by
    rw [unswapped_heap, unswapped_calls, unswapped_freed]
    exact h.freed
  freedOnce := by
    rw [unswapped_freed]
    exact h.freedOnce

/-- The packet is taken, whether it is removed from the list or not. -/
theorem recvmsg_packet (h : TsnSocketOk w t s x) (hb : x.bBound = true)
    (hf : hasFlag xFlags freertosMsgErrqueue = false) (hl : x.xWaitingPacketsList = b :: rest)
    (hp : (w.bufs b).pucEthernetBuffer = .blk a) (hc : Carries w a b m i n) (u : UserMsghdr) :
    match takenMessage w m b n u with
    | some r => ∃ w', (freeRtosTsnRecvmsg t (some u) xFlags).run w = .ok (r.1, some r.2) w' ∧
        Taken (unswapped w s x b rest xFlags) w' a m (some b)
    | none => ∃ w', (freeRtosTsnRecvmsg t (some u) xFlags).run w = .error .heap w' := by
  have hok : HeapOk (unswapped w s x b rest xFlags) := h.heapOk.unswapped
  have hc' : Carries (unswapped w s x b rest xFlags) a b m i n := by
    refine ⟨?_, hc.msgFlags, hc.msgIov, hc.msgIovlen, ?_⟩
    · rw [unswapped_heap]
      exact hc.msghdr
    · rw [unswapped_heap]
      exact hc.iovec
  have hsame : takenMessage (unswapped w s x b rest xFlags) m b n u = takenMessage w m b n u :=
    takenMessage_congr (by rw [unswapped_mem]) fun p y _ => by rw [unswapped_heap]
  have htake := run_prvTakeMessage (u := u) hok hc' (some b)
  rw [run_recvmsg_packet h.socket h.base hb hf hl hp hc, ← hsame, run_map]
  cases ht : takenMessage (unswapped w s x b rest xFlags) m b n u with
  | none =>
      rw [ht] at htake
      obtain ⟨w', hrun⟩ := htake
      exact ⟨w', by rw [hrun]⟩
  | some r =>
      rw [ht] at htake
      obtain ⟨w', hrun⟩ := htake
      obtain ⟨m', ha', htaken⟩ := prvTakeMessage_inv hok hrun
      rw [hc'.msghdr] at ha'
      cases ha'
      exact ⟨w', by rw [hrun], htaken⟩

theorem Taken.takenOnce (hl : x.xWaitingPacketsList = b :: rest)
    (hp : (w.bufs b).pucEthernetBuffer = .blk a) (htaken : Taken (unswapped w s x b rest xFlags) w' a m (some b)) :
    TakenOnce x w w' where
  releases := by
    intro c hc
    rw [hl] at hc
    cases hc
    unfold releases
    rw [htaken.released, unswapped_released]
    simp
  freed := by
    intro c hc a' ha'
    rw [hl] at hc
    cases hc
    rw [hp] at ha'
    cases ha'
    apply List.count_eq_one_of_mem htaken.heapOk.freedOnce
    rw [htaken.freed]
    exact List.mem_append_right _ (mem_blocks.mpr (.inl rfl))
  freedOnce := htaken.heapOk.freedOnce

theorem recvmsg_takenOnce (h : TsnSocketOk w t s x) (hne : x.xWaitingPacketsList ≠ []) {u : Option UserMsghdr}
    (htakes : TakesPacket x u xFlags) {r : Int × Option UserMsghdr}
    (hrun : (freeRtosTsnRecvmsg t u xFlags).run w = .ok r w') : TakenOnce x w w' := by
  obtain ⟨hb, hu, hf⟩ := htakes
  obtain ⟨u, rfl⟩ := Option.ne_none_iff_exists'.mp hu
  obtain ⟨b, rest, hl⟩ := List.exists_cons_of_ne_nil hne
  obtain ⟨a, m, i, n, hp, hc⟩ := h.waiting b (by rw [hl]; exact List.mem_cons_self)
  have hpacket := recvmsg_packet h hb hf hl hp hc u
  cases ht : takenMessage w m b n u with
  | none =>
      rw [ht] at hpacket
      obtain ⟨w₁, herr⟩ := hpacket
      rw [hrun] at herr
      exact nomatch herr
  | some r' =>
      rw [ht] at hpacket
      obtain ⟨w₁, hok, htaken⟩ := hpacket
      rw [hrun] at hok
      cases hok
      exact htaken.takenOnce hl hp

/-! ## Peeking -/

/-- A peek that is refused or finds no error message. -/
theorem run_recvmsg_observes (h : TsnSocketOk w t s x) {u : Option UserMsghdr}
    (ho : x.bBound = false ∨ u = none ∨ hasFlag xFlags freertosMsgErrqueue = true ∧ w.errQueues s.xErrQueue = []) :
    ∃ r, (freeRtosTsnRecvmsg t u xFlags).run w = .ok r w := by
  cases hb : x.bBound with
  | false => exact ⟨_, run_recvmsg_unbound h.socket h.base hb u⟩
  | true =>
      cases u with
      | none => exact ⟨_, run_recvmsg_null h.socket h.base hb⟩
      | some u =>
          rcases ho with ho | ho | ⟨hf, hq⟩
          · rw [hb] at ho
            exact nomatch ho
          · exact nomatch ho
          · exact ⟨_, run_recvmsg_noError h.socket h.base hb hf hq⟩

theorem run_prvPeeks_observes (h : TsnSocketOk w t s x) (us : List (Option UserMsghdr))
    (ho : x.bBound = false ∨ (∀ u ∈ us, u = none) ∨
      hasFlag xFlags freertosMsgErrqueue = true ∧ w.errQueues s.xErrQueue = []) :
    (prvPeeks t xFlags us).run w = .ok () w := by
  induction us with
  | nil => rfl
  | cons u us ih =>
      obtain ⟨r, hrun⟩ :=
        run_recvmsg_observes (u := u) h (ho.imp_right (Or.imp_left fun hnull => hnull u List.mem_cons_self))
      rw [prvPeeks, run_bind_ok hrun]
      exact ih (ho.imp_right (Or.imp_left fun hnull v hv => hnull v (List.mem_cons_of_mem u hv)))

/-- A peek at the error queue takes its first message. -/
theorem run_prvPeeks_errors (h : TsnSocketOk w t s x) (hb : x.bBound = true)
    (hf : hasFlag xFlags freertosMsgErrqueue = true) (us : List (Option UserMsghdr)) :
    ∃ w', (prvPeeks t xFlags us).run w = .ok () w' ∧
      w'.errQueues s.xErrQueue = (w.errQueues s.xErrQueue).drop (us.countP Option.isSome) := by
  induction us generalizing w with
  | nil => exact ⟨w, rfl, rfl⟩
  | cons u us ih =>
      cases u with
      | none =>
          obtain ⟨w', hrun, hq⟩ := ih h
          refine ⟨w', ?_, by simpa using hq⟩
          rw [prvPeeks, run_bind_ok (run_recvmsg_null h.socket h.base hb)]
          exact hrun
      | some u =>
          cases hq : w.errQueues s.xErrQueue with
          | nil =>
              obtain ⟨w', hrun, hq'⟩ := ih h
              refine ⟨w', ?_, by simpa [hq] using hq'⟩
              rw [prvPeeks, run_bind_ok (run_recvmsg_noError h.socket h.base hb hf hq)]
              exact hrun
          | cons e es =>
              obtain ⟨m, he, hi⟩ := h.errors.noVector e (by rw [hq]; exact List.mem_cons_self)
              obtain ⟨r, w₁, hcall, htaken⟩ := recvmsg_error_taken h.heapOk h.socket h.base hb hf hq he hi u
              obtain ⟨w', hrun, hq'⟩ := ih (htaken.tsnSocketOk h.heapOk hq he hi h)
              refine ⟨w', ?_, ?_⟩
              · rw [prvPeeks, run_bind_ok hcall]
                exact hrun
              · rw [hq', htaken.eq]
                simp

/-- After a peek at the first packet no other one ends. -/
theorem prvPeeks_broken_inv (ht : w.heap t = some (.tsnSocket s)) (hx : w.baseSockets s.xBaseSocket = some x)
    (hb : x.bBound = true) (hf : hasFlag xFlags freertosMsgErrqueue = false)
    (hpeek : hasFlag xFlags freertosMsgPeek = true) (hl : x.xWaitingPacketsList = b :: rest)
    (hp : (w.bufs b).pucEthernetBuffer = .eth b 0) {us : List (Option UserMsghdr)}
    (hrun : (prvPeeks t xFlags us).run w = .ok () w') : w' = w := by
  induction us with
  | nil =>
      cases hrun
      rfl
  | cons u us ih =>
      rw [prvPeeks] at hrun
      cases u with
      | none =>
          rw [run_bind_ok (run_recvmsg_null ht hx hb)] at hrun
          exact ih hrun
      | some u =>
          rw [run_bind_error (run_recvmsg_broken ht hx hb hf hpeek hl hp)] at hrun
          exact nomatch hrun

/-- A peek takes the first packet, and leaves it in the list. -/
theorem prvPeeks_broken (h : TsnSocketOk w t s x) (hb : x.bBound = true)
    (hpeek : hasFlag xFlags freertosMsgPeek = true) (hf : hasFlag xFlags freertosMsgErrqueue = false)
    (hl : x.xWaitingPacketsList = b :: rest) {us : List (Option UserMsghdr)} (hus : ¬∀ u ∈ us, u = none)
    (hrun : (prvPeeks t xFlags us).run w = .ok () w') : w'.released = w.released ++ [(b, .eth b 0)] := by
  obtain ⟨a, m, i, n, hp, hc⟩ := h.waiting b (by rw [hl]; exact List.mem_cons_self)
  induction us with
  | nil => exact absurd (fun u hu => nomatch hu) hus
  | cons u us ih =>
      cases u with
      | none =>
          rw [prvPeeks, run_bind_ok (run_recvmsg_null h.socket h.base hb)] at hrun
          exact ih (by simpa using hus) hrun
      | some u =>
          obtain ⟨r, w₁, hcall, hrest⟩ := run_bind_inv hrun
          have hpacket := recvmsg_packet h hb hf hl hp hc u
          cases ht : takenMessage w m b n u with
          | none =>
              rw [ht] at hpacket
              obtain ⟨w₂, herr⟩ := hpacket
              rw [hcall] at herr
              exact nomatch herr
          | some r' =>
              rw [ht] at hpacket
              obtain ⟨w₂, hok, htaken⟩ := hpacket
              rw [hcall] at hok
              cases hok
              have hmsg : (unswapped w s x b rest xFlags).heap a = some (.msghdr m) := by
                rw [unswapped_heap]
                exact hc.msghdr
              have ht₁ : w₁.heap t = some (.tsnSocket s) :=
                htaken.tsnSocket (h.heapOk.unswapped (s := s)).toMsgHeap hmsg (by rw [unswapped_heap]; exact h.socket)
              have hx₁ : w₁.baseSockets s.xBaseSocket = some x := by
                rw [htaken.eq]
                simp only [unswapped, hpeek, if_true]
                exact h.base
              have hp₁ : (w₁.bufs b).pucEthernetBuffer = .eth b 0 := by
                rw [htaken.eq]
                dsimp only
                rw [unswapped_bufs, Function.update_self]
              rw [prvPeeks_broken_inv ht₁ hx₁ hb hf hpeek hl hp₁ hrest, htaken.released, unswapped_released,
                unswapped_bufs]
              simp

/-! ## The effect of a call -/

/-- What a call that returned did: nothing, or it took the first error message, or the first packet. -/
inductive RecvmsgEffect (s : TSNSocket) (x : BaseSocket) (xFlags : Nat) (w w' : World) : Prop
  | unchanged (h : w' = w)
  | error {e : Addr} {es : List Addr} {m : Msghdr} (hq : w.errQueues s.xErrQueue = e :: es)
      (he : w.heap e = some (.msghdr m)) (hi : m.msgIov = none)
      (htaken : Taken (w.setErrQueue s.xErrQueue es) w' e m none)
  | packet {b : BufId} {rest : List BufId} {a i : Addr} {m : Msghdr} {n : Nat} (hl : x.xWaitingPacketsList = b :: rest)
      (hp : (w.bufs b).pucEthernetBuffer = .blk a) (hc : Carries w a b m i n)
      (htaken : Taken (unswapped w s x b rest xFlags) w' a m (some b))

theorem recvmsg_effect (h : TsnSocketOk w t s x) {u : Option UserMsghdr} {r : Int × Option UserMsghdr}
    (hrun : (freeRtosTsnRecvmsg t u xFlags).run w = .ok r w') : RecvmsgEffect s x xFlags w w' := by
  cases hb : x.bBound with
  | false =>
      rw [run_recvmsg_unbound h.socket h.base hb] at hrun
      cases hrun
      exact .unchanged rfl
  | true =>
      cases u with
      | none =>
          rw [run_recvmsg_null h.socket h.base hb] at hrun
          cases hrun
          exact .unchanged rfl
      | some u =>
          cases hf : hasFlag xFlags freertosMsgErrqueue with
          | true =>
              cases hq : w.errQueues s.xErrQueue with
              | nil =>
                  rw [run_recvmsg_noError h.socket h.base hb hf hq] at hrun
                  cases hrun
                  exact .unchanged rfl
              | cons e es =>
                  obtain ⟨m, he, hi⟩ := h.errors.noVector e (by rw [hq]; exact List.mem_cons_self)
                  obtain ⟨r', w₁, hok, htaken⟩ := recvmsg_error_taken h.heapOk h.socket h.base hb hf hq he hi u
                  rw [hok] at hrun
                  cases hrun
                  exact .error hq he hi htaken
          | false =>
              cases hl : x.xWaitingPacketsList with
              | nil =>
                  rw [freeRtosTsnRecvmsg, run_bind_ok (run_loadTsnSocket h.socket),
                    run_bind_ok (run_loadBaseSocket h.base), if_neg (by simp [hb])] at hrun
                  simp only [hf, hl, Bool.false_eq_true, if_false] at hrun
                  cases hrun
                  exact .unchanged rfl
              | cons b rest =>
                  obtain ⟨a, m, i, n, hp, hc⟩ := h.waiting b (by rw [hl]; exact List.mem_cons_self)
                  have hpacket := recvmsg_packet (u := u) h hb hf hl hp hc
                  cases ht : takenMessage w m b n u with
                  | none =>
                      rw [ht] at hpacket
                      obtain ⟨w₁, herr⟩ := hpacket
                      rw [hrun] at herr
                      exact nomatch herr
                  | some r' =>
                      rw [ht] at hpacket
                      obtain ⟨w₁, hok, htaken⟩ := hpacket
                      rw [hrun] at hok
                      cases hok
                      exact .packet hl hp hc htaken

end FreeRtosTsn.Packet
