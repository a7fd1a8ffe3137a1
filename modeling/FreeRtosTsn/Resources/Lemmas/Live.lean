import FreeRtosTsn.Packet.Lemmas.Report
import FreeRtosTsn.Resources.Lemmas.Table

/-!
# Live resources

What a call does to the blocks, base sockets and error queues that are reached from the open sockets.
-/

namespace FreeRtosTsn.Resources

open Lib Kernel Packet

variable {cfg : Config} {w w' : World} {opened opened' : List Addr} {t x : Addr}

structure LifeInv (w : World) (opened : List Addr) : Prop extends SocketsInv w opened where
  live : LiveExact w opened
  ownQueue : ∀ t ∈ opened, ∀ t' ∈ opened, ∀ q, errQueueOf w t = some q → errQueueOf w t' = some q → t = t'
  queueFresh : ∀ q ∈ w.errQueueHandles, q < w.calls
  messages : ∀ t ∈ opened, ∀ q, errQueueOf w t = some q → ∀ a ∈ w.errQueues q,
    ∃ m, w.heap a = some (.msghdr m) ∧ ∀ p x, part m p = some x → ∃ bs, w.heap x = some (.control bs)
  inOne : ∀ t ∈ opened, ∀ t' ∈ opened, ∀ q q' a, errQueueOf w t = some q → errQueueOf w t' = some q' →
    a ∈ w.errQueues q → a ∈ w.errQueues q' → t = t'

/-! ## What is reached -/

theorem errQueueOf_eq_some {q : QueueHandle} :
    errQueueOf w t = some q ↔ ∃ s, w.heap t = some (.tsnSocket s) ∧ s.xErrQueue = q := socketField_eq_some _

theorem errQueueOf_of_heap {s : TSNSocket} (h : w.heap t = some (.tsnSocket s)) : errQueueOf w t = some s.xErrQueue :=
  errQueueOf_eq_some.mpr ⟨s, h, rfl⟩

theorem errQueueOf_congr (h : w'.heap t = w.heap t) : errQueueOf w' t = errQueueOf w t := by
  rw [errQueueOf, errQueueOf, h]

/-- What was reached still is, when sockets keep their queues, queues their messages, and messages their parts. -/
theorem Reached.mono (ho : ∀ t ∈ opened, t ∈ opened' ∧ errQueueOf w' t = errQueueOf w t)
    (hq : ∀ t ∈ opened, ∀ q, errQueueOf w t = some q → ∀ a ∈ w.errQueues q,
      a ∈ w'.errQueues q ∧ w'.heap a = w.heap a) (h : Reached w opened x) : Reached w' opened' x := by
  cases h with
  | socket ht => exact .socket (ho x ht).1
  | message ht hqueue ha => exact .message (ho _ ht).1 ((ho _ ht).2.trans hqueue) (hq _ ht _ hqueue _ ha).1
  | part ht hqueue ha hm hp =>
      exact .part (ho _ ht).1 ((ho _ ht).2.trans hqueue) (hq _ ht _ hqueue _ ha).1
        ((hq _ ht _ hqueue _ ha).2.trans hm) hp

/-! ## Calls that change no ownership -/

/-- The blocks are the same, but for the options of sockets. -/
def SameBlocks (w w' : World) : Prop :=
  ∀ y, w'.heap y = w.heap y ∨ ∃ s s', w.heap y = some (.tsnSocket s) ∧ w'.heap y = some (.tsnSocket s') ∧
    s'.xBaseSocket = s.xBaseSocket ∧ s'.xErrQueue = s.xErrQueue

namespace SameBlocks

theorem setBlock {s s' : TSNSocket} (hs : w.heap t = some (.tsnSocket s)) (hheap : w'.heap = w.heap)
    (hb : s'.xBaseSocket = s.xBaseSocket) (hq : s'.xErrQueue = s.xErrQueue) :
    SameBlocks w (w'.setBlock t (some (.tsnSocket s'))) := by
  intro y
  by_cases hy : y = t
  · subst hy
    exact Or.inr ⟨s, s', hs, by simp, hb, hq⟩
  · exact Or.inl (by simp [hy, hheap])

variable (h : SameBlocks w w')
include h

theorem live (y : Addr) : w'.heap y ≠ none ↔ w.heap y ≠ none := by
  rcases h y with heq | ⟨s, s', hs, hs', -⟩
  · rw [heq]
  · simp [hs, hs']

theorem baseOf (y : Addr) : baseOf w' y = baseOf w y := by
  rcases h y with heq | ⟨s, s', hs, hs', hb, -⟩
  · exact baseOf_congr heq
  · rw [baseOf_of_heap hs, baseOf_of_heap hs', hb]

theorem errQueueOf (y : Addr) : errQueueOf w' y = errQueueOf w y := by
  rcases h y with heq | ⟨s, s', hs, hs', -, hq⟩
  · exact errQueueOf_congr heq
  · rw [errQueueOf_of_heap hs, errQueueOf_of_heap hs', hq]

theorem heap_eq {y : Addr} (hno : ∀ s, w.heap y ≠ some (.tsnSocket s)) : w'.heap y = w.heap y := by
  rcases h y with heq | ⟨s, s', hs, -⟩
  · exact heq
  · exact absurd hs (hno s)

end SameBlocks

namespace LifeInv

theorem lt_calls_of_live (h : LifeInv w opened) {y : Addr} (hy : w.heap y ≠ none) : y < w.calls := by
  by_contra hge
  exact hy (h.heapFresh y (Nat.not_lt.mp hge))

theorem reached_lt_calls (h : LifeInv w opened) (hx : Reached w opened x) : x < w.calls :=
  h.lt_calls_of_live ((h.live.blocks x).mpr hx)

theorem mem_handles (h : LifeInv w opened) (ht : t ∈ opened) {q : QueueHandle} (hq : errQueueOf w t = some q) :
    q ∈ w.errQueueHandles := (h.live.errQueues q).mpr ⟨t, ht, hq⟩

theorem exists_errQueue (h : LifeInv w opened) (ht : t ∈ opened) : ∃ q, errQueueOf w t = some q := by
  obtain ⟨s, -, hs, -⟩ := h.open_heap ht
  exact ⟨_, errQueueOf_of_heap hs⟩

theorem message_heap_eq (h : LifeInv w opened) (hb : SameBlocks w w') (ht : t ∈ opened) {q : QueueHandle}
    (hq : errQueueOf w t = some q) {a : Addr} (ha : a ∈ w.errQueues q) : w'.heap a = w.heap a := by
  obtain ⟨m, hm, -⟩ := h.messages t ht q hq a ha
  refine hb.heap_eq fun s hs => ?_
  rw [hm] at hs
  cases hs

theorem keep (h : LifeInv w opened) (hs : SocketsInv w' opened) (hb : SameBlocks w w')
    (hbase : ∀ k, w'.baseSockets k ≠ none ↔ w.baseSockets k ≠ none) (hq : w'.errQueues = w.errQueues)
    (hh : w'.errQueueHandles = w.errQueueHandles) (hle : w.calls ≤ w'.calls) : LifeInv w' opened := by
  have hto : ∀ y, Reached w opened y → Reached w' opened y := fun y =>
    Reached.mono (fun t ht => ⟨ht, hb.errQueueOf t⟩) fun t ht q hqueue a ha =>
      ⟨by rw [hq]; exact ha, h.message_heap_eq hb ht hqueue ha⟩
  have hfrom : ∀ y, Reached w' opened y → Reached w opened y := fun y =>
    Reached.mono (fun t ht => ⟨ht, (hb.errQueueOf t).symm⟩) fun t ht q hqueue a ha => by
      rw [hb.errQueueOf t] at hqueue
      rw [hq] at ha
      exact ⟨ha, (h.message_heap_eq hb ht hqueue ha).symm⟩
  refine ⟨hs, ⟨fun y => ?_, fun k => ?_, fun q => ?_⟩, fun t ht t' ht' q => ?_, fun q hqh => ?_,
    fun t ht q hqueue a ha => ?_, fun t ht t' ht' q q' a => ?_⟩
  · rw [hb.live, h.live.blocks]
    exact ⟨hto y, hfrom y⟩
  · simp only [hbase, h.live.baseSockets, hb.baseOf]
  · simp only [hh, h.live.errQueues, hb.errQueueOf]
  · rw [hb.errQueueOf, hb.errQueueOf]
    exact h.ownQueue t ht t' ht' q
  · rw [hh] at hqh
    exact Nat.lt_of_lt_of_le (h.queueFresh q hqh) hle
  · rw [hb.errQueueOf] at hqueue
    rw [hq] at ha
    obtain ⟨m, hm, hparts⟩ := h.messages t ht q hqueue a ha
    refine ⟨m, (h.message_heap_eq hb ht hqueue ha).trans hm, fun p y hp => ?_⟩
    obtain ⟨bs, hbs⟩ := hparts p y hp
    refine ⟨bs, (hb.heap_eq fun s hs' => ?_).trans hbs⟩
    rw [hbs] at hs'
    cases hs'
  · rw [hb.errQueueOf, hb.errQueueOf, hq]
    exact h.inOne t ht t' ht' q q' a

/-! ## Creation -/

section Created

variable {s : TSNSocket} {x : BaseSocket}

theorem created_heap {y : Addr} (hy : y ≠ w.calls) : (createdWorld w s x).heap y = w.heap y :=
  Function.update_of_ne hy _ _

theorem created_heap_new : (createdWorld w s x).heap w.calls = some (.tsnSocket s) := Function.update_self _ _ _

theorem created_errQueueOf (h : LifeInv w opened) (ht : t ∈ opened) :
    errQueueOf (createdWorld w s x) t = errQueueOf w t :=
  errQueueOf_congr (created_heap (Nat.ne_of_lt (h.lt_calls ht)))

theorem created_baseOf (h : LifeInv w opened) (ht : t ∈ opened) : baseOf (createdWorld w s x) t = baseOf w t :=
  baseOf_congr (created_heap (Nat.ne_of_lt (h.lt_calls ht)))

theorem created_errQueues (h : LifeInv w opened) {q : QueueHandle} (hq : q ∈ w.errQueueHandles) :
    (createdWorld w s x).errQueues q = w.errQueues q :=
  Function.update_of_ne (Nat.ne_of_lt (Nat.lt_add_right 2 (h.queueFresh q hq))) _ _

theorem created_message (h : LifeInv w opened) {q : QueueHandle} {a : Addr} (ht : t ∈ opened)
    (hq : errQueueOf w t = some q) (ha : a ∈ w.errQueues q) : (createdWorld w s x).heap a = w.heap a :=
  created_heap (Nat.ne_of_lt (h.reached_lt_calls (.message ht hq ha)))

variable (h : LifeInv w opened) (hq : s.xErrQueue = w.calls + 2)
include h hq

theorem created_queued {q : QueueHandle} {a : Addr} (ht : t ∈ opened ++ [w.calls])
    (hqt : errQueueOf (createdWorld w s x) t = some q) (ha : a ∈ (createdWorld w s x).errQueues q) :
    t ∈ opened ∧ errQueueOf w t = some q ∧ a ∈ w.errQueues q := by
  rcases List.mem_append.mp ht with ht | ht
  · rw [h.created_errQueueOf ht] at hqt
    rw [h.created_errQueues (h.mem_handles ht hqt)] at ha
    exact ⟨ht, hqt, ha⟩
  · rw [List.mem_singleton.mp ht, errQueueOf_of_heap created_heap_new, hq] at hqt
    cases hqt
    simp [createdWorld] at ha

theorem reached_created (y : Addr) :
    Reached (createdWorld w s x) (opened ++ [w.calls]) y ↔ y = w.calls ∨ Reached w opened y := by
  constructor
  · intro hy
    cases hy with
    | socket ht =>
        rcases List.mem_append.mp ht with ht | ht
        · exact Or.inr (.socket ht)
        · exact Or.inl (List.mem_singleton.mp ht)
    | message ht hqt ha =>
        obtain ⟨ht, hqt, ha⟩ := h.created_queued hq ht hqt ha
        exact Or.inr (.message ht hqt ha)
    | part ht hqt ha hm hp =>
        obtain ⟨ht, hqt, ha⟩ := h.created_queued hq ht hqt ha
        exact Or.inr (.part ht hqt ha ((h.created_message ht hqt ha).symm.trans hm) hp)
  · rintro (rfl | hy)
    · exact .socket (List.mem_append_right _ (List.mem_singleton_self _))
    · refine hy.mono (fun t ht => ⟨List.mem_append_left _ ht, h.created_errQueueOf ht⟩) fun t ht q hqt a ha => ?_
      rw [h.created_errQueues (h.mem_handles ht hqt)]
      exact ⟨ha, h.created_message ht hqt ha⟩

theorem created_live (hs : s.xBaseSocket = w.calls + 1) :
    LiveExact (createdWorld w s x) (opened ++ [w.calls]) where
  blocks y := by
    rw [h.reached_created hq]
    by_cases hy : y = w.calls
    · simp [hy, created_heap_new]
    · rw [created_heap hy, h.live.blocks]
      exact (or_iff_right hy).symm
  baseSockets k := by
    simp only [List.mem_append, List.mem_singleton, or_and_right, exists_or, exists_eq_left,
      baseOf_of_heap created_heap_new, hs, Option.some.injEq]
    by_cases hk : k = w.calls + 1
    · simp [hk, createdWorld]
    · have hsame : (createdWorld w s x).baseSockets k = w.baseSockets k := Function.update_of_ne hk _ _
      rw [hsame, h.live.baseSockets, or_iff_left (Ne.symm hk)]
      exact exists_congr fun t => and_congr_right fun ht => by rw [h.created_baseOf ht]
  errQueues q := by
    have hhandles : (createdWorld w s x).errQueueHandles = w.errQueueHandles ++ [w.calls + 2] := rfl
    simp only [hhandles, List.mem_append, List.mem_singleton, or_and_right, exists_or, exists_eq_left,
      errQueueOf_of_heap created_heap_new, hq, Option.some.injEq, h.live.errQueues]
    refine or_congr ?_ eq_comm
    exact exists_congr fun t => and_congr_right fun ht => by rw [h.created_errQueueOf ht]

/-- A new socket comes with a base socket and an error queue of its own. -/
theorem created (hs : s.xBaseSocket = w.calls + 1) (hb : x.bBound = false) :
    LifeInv (createdWorld w s x) (opened ++ [w.calls]) where
  toSocketsInv := h.toSocketsInv.created hs hb
  live := h.created_live hq hs
  ownQueue t ht t' ht' q hqt hqt' := by
    have hnew : ∀ t ∈ opened, errQueueOf w t ≠ some (w.calls + 2) := by
      intro t ht hqt
      exact absurd (h.queueFresh _ (h.mem_handles ht hqt)) (Nat.not_lt.mpr (Nat.le_add_right _ 2))
    rcases List.mem_append.mp ht with ht | ht <;> rcases List.mem_append.mp ht' with ht' | ht'
    · rw [h.created_errQueueOf ht] at hqt
      rw [h.created_errQueueOf ht'] at hqt'
      exact h.ownQueue t ht t' ht' q hqt hqt'
    · rw [h.created_errQueueOf ht] at hqt
      rw [List.mem_singleton.mp ht', errQueueOf_of_heap created_heap_new, hq] at hqt'
      exact absurd (hqt.trans hqt'.symm) (hnew t ht)
    · rw [h.created_errQueueOf ht'] at hqt'
      rw [List.mem_singleton.mp ht, errQueueOf_of_heap created_heap_new, hq] at hqt
      exact absurd (hqt'.trans hqt.symm) (hnew t' ht')
    · rw [List.mem_singleton.mp ht, List.mem_singleton.mp ht']
  queueFresh q hmem := by
    rcases List.mem_append.mp hmem with hmem | hmem
    · exact Nat.lt_add_right 3 (h.queueFresh q hmem)
    · rw [List.mem_singleton.mp hmem]
      exact Nat.lt_succ_self _
  messages t ht q hqt a ha := by
    obtain ⟨ht, hqt, ha⟩ := h.created_queued hq ht hqt ha
    obtain ⟨m, hm, hparts⟩ := h.messages t ht q hqt a ha
    refine ⟨m, (h.created_message ht hqt ha).trans hm, fun p y hp => ?_⟩
    have hlt := h.reached_lt_calls (.part ht hqt ha hm hp)
    rw [created_heap (Nat.ne_of_lt hlt)]
    exact hparts p y hp
  inOne t ht t' ht' q q' a hqt hqt' ha ha' := by
    obtain ⟨ht, hqt, ha⟩ := h.created_queued hq ht hqt ha
    obtain ⟨ht', hqt', ha'⟩ := h.created_queued hq ht' hqt' ha'
    exact h.inOne t ht t' ht' q q' a hqt hqt' ha ha'

end Created

/-! ## Losses -/

/-- The base socket of a socket without an error queue belongs to no open socket. -/
theorem stray_lost (h : LifeInv w opened) (x : BaseSocket) : ¬LiveExact (strayWorld w x) opened := by
  intro hlive
  have hnew : (strayWorld w x).baseSockets (w.calls + 1) ≠ none := by simp [strayWorld]
  obtain ⟨t, ht, hk⟩ := (hlive.baseSockets _).mp hnew
  have hlt := h.base_lt_calls ht hk
  exact absurd hlt (Nat.not_lt.mpr (Nat.le_succ _))

/-- The error queue of a closed socket stays. -/
theorem closed_lost (h : LifeInv w opened) (ht : t ∈ opened) (k : SockId) (x : BaseSocket) :
    ¬LiveExact (closedBase (unlisted w t) k x) (opened.filter (· ≠ t)) := by
  intro hlive
  obtain ⟨q, hq⟩ := h.exists_errQueue ht
  obtain ⟨t', ht', hq'⟩ := (hlive.errQueues q).mp (h.mem_handles ht hq)
  obtain ⟨ho, hne⟩ := List.mem_filter.mp ht'
  have hsame := h.ownQueue t' ho t ht q hq' hq
  simp [hsame] at hne

/-- The messages of an error queue that is reset stay. -/
theorem reset_lost (h : LifeInv w opened) (hb : SameBlocks w w') (ht : t ∈ opened) {q : QueueHandle}
    (hqt : errQueueOf w t = some q) (hq : w'.errQueues = Function.update w.errQueues q [])
    (hne : w.errQueues q ≠ []) : ¬LiveExact w' opened := by
  intro hlive
  obtain ⟨a, rest, hrest⟩ := List.exists_cons_of_ne_nil hne
  have ha : a ∈ w.errQueues q := by rw [hrest]; exact List.mem_cons_self
  obtain ⟨m, hm, -⟩ := h.messages t ht q hqt a ha
  have hother : ∀ q' a', a' ∈ w'.errQueues q' → q' ≠ q ∧ a' ∈ w.errQueues q' := by
    intro q' a' ha'
    rw [hq] at ha'
    by_cases hqq : q' = q
    · rw [hqq, Function.update_self] at ha'
      cases ha'
    · rw [Function.update_of_ne hqq] at ha'
      exact ⟨hqq, ha'⟩
  have hreached : Reached w' opened a := by
    rw [← hlive.blocks, hb.live, hm]
    exact Option.some_ne_none _
  cases hreached with
  | socket hopen =>
      obtain ⟨s, -, hs, -⟩ := h.open_heap hopen
      cases hm.symm.trans hs
  | message ht' hqt' ha' =>
      rw [hb.errQueueOf] at hqt'
      obtain ⟨hqq, ha'⟩ := hother _ _ ha'
      obtain rfl := h.inOne t ht _ ht' q _ a hqt hqt' ha ha'
      exact hqq (Option.some.inj (hqt'.symm.trans hqt))
  | part ht' hqt' ha' hm' hp =>
      rw [hb.errQueueOf] at hqt'
      obtain ⟨-, ha'⟩ := hother _ _ ha'
      rw [h.message_heap_eq hb ht' hqt' ha'] at hm'
      obtain ⟨m', hm'', hparts⟩ := h.messages _ ht' _ hqt' _ ha'
      cases hm''.symm.trans hm'
      obtain ⟨bs, hbs⟩ := hparts _ a hp
      cases hm.symm.trans hbs

/-! ## Reports of sent frames -/

section Report

variable {m : Msghdr} {bs : List UInt8}

theorem reported_heap (m : Msghdr) (bs : List UInt8) {y : Addr} (hy : y < w.calls) : (reportedWorld w m bs).heap y = w.heap y :=
  (Function.update_of_ne (Nat.ne_of_lt (Nat.lt_succ_of_lt hy)) _ _).trans (Function.update_of_ne (Nat.ne_of_lt hy) _ _)

theorem reported_heap_live (m : Msghdr) (bs : List UInt8) (y : Addr) :
    (reportedWorld w m bs).heap y ≠ none ↔ y = w.calls ∨ y = w.calls + 1 ∨ w.heap y ≠ none := by
  by_cases h1 : y = w.calls + 1
  · simp [reportedWorld, h1]
  · by_cases h0 : y = w.calls
    · simp [reportedWorld, h0]
    · simp [reportedWorld, h0, h1]

variable (h : LifeInv w opened)
include h

theorem reported_errQueueOf (m : Msghdr) (bs : List UInt8) (ht : t ∈ opened) :
    errQueueOf (reportedWorld w m bs) t = errQueueOf w t :=
  errQueueOf_congr (reported_heap m bs (h.lt_calls ht))

/-- The message of a frame that finds the error queue full stays. -/
theorem dropped_lost : ¬LiveExact (reportedWorld w m bs) opened := by
  intro hlive
  have hreached : Reached (reportedWorld w m bs) opened w.calls := by
    rw [← hlive.blocks, reportedWorld_heap_calls]
    exact Option.some_ne_none _
  have hold : Reached w opened w.calls := by
    refine hreached.mono (fun t ht => ⟨ht, (h.reported_errQueueOf m bs ht).symm⟩) fun t ht q hqt a ha => ⟨ha, ?_⟩
    rw [h.reported_errQueueOf m bs ht] at hqt
    exact (reported_heap m bs (h.reached_lt_calls (.message ht hqt ha))).symm
  exact Nat.lt_irrefl _ (h.reached_lt_calls hold)

theorem queued_mem {q q' : QueueHandle} {a : Addr} (ht : t ∈ opened) (hqt : errQueueOf w t = some q) {t' : Addr}
    (ht' : t' ∈ opened)
    (hqt' : errQueueOf ((reportedWorld w m bs).setErrQueue q (w.errQueues q ++ [w.calls])) t' = some q') :
    errQueueOf w t' = some q' ∧
      (a ∈ ((reportedWorld w m bs).setErrQueue q (w.errQueues q ++ [w.calls])).errQueues q' ↔
        a ∈ w.errQueues q' ∨ a = w.calls ∧ t' = t) := by
  have hold : errQueueOf w t' = some q' := (h.reported_errQueueOf m bs ht').symm.trans hqt'
  refine ⟨hold, ?_⟩
  by_cases hqq : q' = q
  · have htt : t' = t := h.ownQueue t' ht' t ht q (hqq ▸ hold) hqt
    simp [hqq, htt]
  · have htt : t' ≠ t := by
      rintro rfl
      exact hqq (Option.some.inj (hold.symm.trans hqt))
    have hsame : ((reportedWorld w m bs).setErrQueue q (w.errQueues q ++ [w.calls])).errQueues q' = w.errQueues q' :=
      Function.update_of_ne hqq _ _
    simp [hsame, htt]

theorem reached_queued {q : QueueHandle} (ht : t ∈ opened) (hqt : errQueueOf w t = some q)
    (hparts : ∀ p x, part m p = some x ↔ p = .control ∧ x = w.calls + 1) (y : Addr) :
    Reached ((reportedWorld w m bs).setErrQueue q (w.errQueues q ++ [w.calls])) opened y ↔
      y = w.calls ∨ y = w.calls + 1 ∨ Reached w opened y := by
  have hself : errQueueOf ((reportedWorld w m bs).setErrQueue q (w.errQueues q ++ [w.calls])) t = some q :=
    (h.reported_errQueueOf m bs ht).trans hqt
  have hnew : w.calls ∈ ((reportedWorld w m bs).setErrQueue q (w.errQueues q ++ [w.calls])).errQueues q :=
    (h.queued_mem ht hqt ht hself).2.mpr (Or.inr ⟨rfl, rfl⟩)
  have hheap : ((reportedWorld w m bs).setErrQueue q (w.errQueues q ++ [w.calls])).heap w.calls = some (.msghdr m) :=
    reportedWorld_heap_calls m bs
  constructor
  · intro hy
    cases hy with
    | socket ht' => exact Or.inr (Or.inr (.socket ht'))
    | message ht' hqt' ha =>
        obtain ⟨hold, hmem⟩ := h.queued_mem ht hqt ht' hqt'
        rcases hmem.mp ha with ha | ⟨rfl, -⟩
        · exact Or.inr (Or.inr (.message ht' hold ha))
        · exact Or.inl rfl
    | part ht' hqt' ha hm hp =>
        obtain ⟨hold, hmem⟩ := h.queued_mem ht hqt ht' hqt'
        rcases hmem.mp ha with ha | ⟨rfl, -⟩
        · have hlt := h.reached_lt_calls (.message ht' hold ha)
          exact Or.inr (Or.inr (.part ht' hold ha ((reported_heap m bs hlt).symm.trans hm) hp))
        · cases hheap.symm.trans hm
          exact Or.inr (Or.inl ((hparts _ y).mp hp).2)
  · rintro (rfl | rfl | hy)
    · exact .message ht hself hnew
    · exact .part ht hself hnew hheap ((hparts .control _).mpr ⟨rfl, rfl⟩)
    · refine hy.mono (fun t' ht' => ⟨ht', h.reported_errQueueOf m bs ht'⟩) fun t' ht' q' hqt' a ha => ?_
      have hqt'' := (h.reported_errQueueOf m bs ht').trans hqt'
      exact ⟨(h.queued_mem ht hqt ht' hqt'').2.mpr (Or.inl ha),
        reported_heap m bs (h.reached_lt_calls (.message ht' hqt' ha))⟩

theorem queued {q : QueueHandle} (ht : t ∈ opened) (hqt : errQueueOf w t = some q)
    (hparts : ∀ p x, part m p = some x ↔ p = .control ∧ x = w.calls + 1) :
    LifeInv ((reportedWorld w m bs).setErrQueue q (w.errQueues q ++ [w.calls])) opened where
  toSocketsInv := by
    refine h.toSocketsInv.keep (fun y hy => ?_) (fun k hk => h.baseFresh k (Nat.le_trans (Nat.le_add_right _ 2) hk))
      (fun t ht => baseOf_congr (reported_heap m bs (h.lt_calls ht))) (fun t _ k _ hl => ⟨hl, rfl⟩) rfl rfl
    have hle : w.calls + 2 ≤ y := hy
    have hnone := (reported_heap_live (w := w) m bs y).not.mpr
    simp only [not_or, ne_eq, not_not] at hnone
    exact hnone ⟨Nat.ne_of_gt (Nat.le_of_succ_le hle), Nat.ne_of_gt hle,
      h.heapFresh y (Nat.le_trans (Nat.le_add_right _ 2) hle)⟩
  live := by
    refine ⟨fun y => ?_, fun k => ?_, fun q' => ?_⟩
    · rw [h.reached_queued ht hqt hparts, ← h.live.blocks]
      exact reported_heap_live m bs y
    · refine (h.live.baseSockets k).trans (exists_congr fun t' => and_congr_right fun ht' => ?_)
      rw [← baseOf_congr (reported_heap m bs (h.lt_calls ht'))]
      rfl
    · refine (h.live.errQueues q').trans (exists_congr fun t' => and_congr_right fun ht' => ?_)
      rw [← h.reported_errQueueOf m bs ht']
      rfl
  ownQueue t₁ h₁ t₂ h₂ q' hq₁ hq₂ :=
    h.ownQueue t₁ h₁ t₂ h₂ q' ((h.reported_errQueueOf m bs h₁).symm.trans hq₁) ((h.reported_errQueueOf m bs h₂).symm.trans hq₂)
  queueFresh q' hmem := Nat.lt_add_right 2 (h.queueFresh q' hmem)
  messages t' ht' q' hqt' a ha := by
    obtain ⟨hold, hmem⟩ := h.queued_mem ht hqt ht' hqt'
    rcases hmem.mp ha with ha | ⟨rfl, -⟩
    · obtain ⟨m', hm', hparts'⟩ := h.messages t' ht' q' hold a ha
      refine ⟨m', (reported_heap m bs (h.reached_lt_calls (.message ht' hold ha))).trans hm', fun p y hp => ?_⟩
      obtain ⟨bs', hbs'⟩ := hparts' p y hp
      exact ⟨bs', (reported_heap m bs (h.reached_lt_calls (.part ht' hold ha hm' hp))).trans hbs'⟩
    · refine ⟨m, reportedWorld_heap_calls m bs, fun p y hp => ?_⟩
      rw [((hparts p y).mp hp).2]
      exact ⟨bs, Function.update_self _ _ _⟩
  inOne t₁ h₁ t₂ h₂ q₁ q₂ a hq₁ hq₂ ha₁ ha₂ := by
    obtain ⟨hold₁, hmem₁⟩ := h.queued_mem (a := a) ht hqt h₁ hq₁
    obtain ⟨hold₂, hmem₂⟩ := h.queued_mem (a := a) ht hqt h₂ hq₂
    have hnew : ∀ t' ∈ opened, ∀ q', errQueueOf w t' = some q' → w.calls ∉ w.errQueues q' :=
      fun t' ht' q' hq' hc => Nat.lt_irrefl _ (h.reached_lt_calls (.message ht' hq' hc))
    rcases hmem₁.mp ha₁ with ha₁ | ⟨rfl, rfl⟩ <;> rcases hmem₂.mp ha₂ with ha₂ | ⟨he, rfl⟩
    · exact h.inOne t₁ h₁ t₂ h₂ q₁ q₂ a hold₁ hold₂ ha₁ ha₂
    · rw [he] at ha₁
      exact absurd ha₁ (hnew t₁ h₁ q₁ hold₁)
    · exact absurd ha₂ (hnew t₂ h₂ q₂ hold₂)
    · rfl

end Report

/-! ## Calls -/

theorem start (h : StartsEmpty w) : LifeInv w [] where
  toSocketsInv := SocketsInv.start ⟨fun y _ => h.heap y, fun k _ => h.baseSockets k, h.tsn⟩
  live := by
    refine ⟨fun y => ?_, fun k => ?_, fun q => ?_⟩
    · simp only [h.heap, ne_eq, not_true_eq_false, false_iff]
      intro hy
      cases hy <;> contradiction
    · simp [h.baseSockets]
    · simp [h.errQueueHandles]
  ownQueue := by simp
  queueFresh := by simp [h.errQueueHandles]
  messages := by simp
  inOne := by simp

theorem refused (h : LifeInv w opened) (heq : w' = { w with calls := w'.calls, freed := w'.freed })
    (hle : w.calls ≤ w'.calls) : LifeInv w' opened := by
  refine h.keep (h.toSocketsInv.refused heq hle) (fun y => Or.inl ?_) (fun k => ?_) ?_ ?_ hle
  · rw [heq]
  · rw [heq]
  · rw [heq]
  · rw [heq]

theorem bound (h : LifeInv w opened) (ht : t ∈ opened) {k : SockId} {x : BaseSocket} {usPort : UInt16}
    (hk : baseOf w t = some k) (hx : w.baseSockets k = some x) (hb : x.bBound = false)
    (hfree : prvLookup usPort w.xBoundUDPSocketsList = none) : LifeInv (boundTsn w t k x usPort) opened := by
  refine h.keep (h.toSocketsInv.bound ht hk hx hb hfree) (fun _ => Or.inl rfl) (fun k' => ?_) rfl rfl (Nat.le_succ _)
  by_cases hkk : k' = k
  · simp [boundTsn, boundBase, hkk, hx]
  · simp [boundTsn, boundBase, hkk]

theorem socketCall (h : LifeInv w opened) {c : SocketCall} (hv : c.Valid opened)
    (hrun : (c.run cfg opened).run w = .ok opened' w') :
    (LifecycleCall.Keeps cfg w (.sockets c) → LifeInv w' opened') ∧
      (¬LifecycleCall.Keeps cfg w (.sockets c) → ¬LiveExact w' opened') := by
  cases c with
  | socket bIsIPv6 xType =>
      obtain ⟨r, w₁, hcall, ho⟩ := freeRtosTsnSocket_cases (h.heapFresh _ (Nat.le_refl _)) bIsIPv6 xType
      rw [SocketCall.run, run_bind_ok hcall] at hrun
      cases ho with
      | refused hno heq hle =>
          cases hrun
          exact ⟨fun _ => h.refused heq hle, fun hn => absurd hno hn⟩
      | noQueue hfail _ =>
          cases hrun
          exact ⟨fun hk => absurd hfail hk, fun _ => h.stray_lost _⟩
      | created hno hs hq hb =>
          cases hrun
          exact ⟨fun _ => h.created hq hs hb, fun hn => absurd hno hn⟩
  | bind t sinPort =>
      obtain ⟨s, x, hs, hx⟩ := h.open_heap hv
      refine ⟨fun _ => ?_, fun hn => absurd trivial hn⟩
      rw [SocketCall.run] at hrun
      rcases freeRtosTsnBind_cases hs hx sinPort with hfail | ⟨hb, usPort, hfree, hok⟩
      · rw [run_bind_ok hfail] at hrun
        cases hrun
        exact h.refused rfl (Nat.le_succ _)
      · rw [run_bind_ok hok] at hrun
        cases hrun
        exact h.bound hv (baseOf_of_heap hs) hx hb hfree
  | closesocket t =>
      obtain ⟨s, -, hs, -⟩ := h.open_heap hv
      refine ⟨fun hk => absurd hk id, fun _ => ?_⟩
      obtain ⟨_, w₁, hclose, h₁⟩ := run_bind_inv hrun
      obtain ⟨x, -, rfl⟩ := freeRtosTsnClosesocket_inv hs hclose
      cases h₁
      exact h.closed_lost hv _ x

theorem stored (h : LifeInv w opened) {s s' : TSNSocket} (hs : w.heap t = some (.tsnSocket s))
    (hb : s'.xBaseSocket = s.xBaseSocket) (hq : s'.xErrQueue = s.xErrQueue) :
    LifeInv (w.setBlock t (some (.tsnSocket s'))) opened := by
  have hblocks := SameBlocks.setBlock hs rfl hb hq
  refine h.keep (h.toSocketsInv.keep (fun y hy => ?_) h.baseFresh (fun t _ => hblocks.baseOf t)
    (fun t _ k _ hl => ⟨hl, rfl⟩) rfl rfl) hblocks (fun _ => Iff.rfl) rfl rfl (Nat.le_refl _)
  have hdead := (hblocks.live y).not
  rw [not_not, not_not] at hdead
  exact hdead.mpr (h.heapFresh y hy)

theorem setsockopt (h : LifeInv w opened) (ht : t ∈ opened) {lOptionName ulOptionValue r : Int}
    (hrun : (freeRtosTsnSetsockopt cfg t lOptionName ulOptionValue).run w = .ok r w') :
    (LifecycleCall.Keeps cfg w (.setsockopt t lOptionName ulOptionValue) → LifeInv w' opened) ∧
      (¬LifecycleCall.Keeps cfg w (.setsockopt t lOptionName ulOptionValue) → ¬LiveExact w' opened) := by
  obtain ⟨s, -, hs, -⟩ := h.open_heap ht
  have hqueue := errQueueOf_of_heap hs
  have hkeeps : ¬ResetsErrors lOptionName ulOptionValue →
      LifecycleCall.Keeps cfg w (.setsockopt t lOptionName ulOptionValue) :=
    fun hno hname hmask => absurd ⟨hname, hmask⟩ hno
  cases freeRtosTsnSetsockopt_inv hs hrun with
  | refused hno => exact ⟨fun _ => h, fun hn => absurd (hkeeps hno) hn⟩
  | stored hno hb hq => exact ⟨fun _ => h.stored hs hb hq, fun hn => absurd (hkeeps hno) hn⟩
  | @reset s' hr hb hq =>
      refine ⟨fun hk => ?_, fun hn => ?_⟩
      · have hsame : w.setErrQueue s.xErrQueue [] = w := by
          rw [World.setErrQueue, ← hk hr.1 hr.2 s.xErrQueue hqueue, Function.update_eq_self]
        rw [hsame]
        exact h.stored hs hb hq
      · have hne : w.errQueues s.xErrQueue ≠ [] := by
          intro hempty
          refine hn fun _ _ q hq' => ?_
          rw [← Option.some.inj (hqueue.symm.trans hq')]
          exact hempty
        have hblocks : SameBlocks w ((w.setErrQueue s.xErrQueue []).setBlock t (some (.tsnSocket s'))) :=
          .setBlock hs rfl hb hq
        exact h.reset_lost hblocks ht hqueue rfl hne
  | @base x x' hno hx hbound hport =>
      refine ⟨fun _ => ?_, fun hn => absurd (hkeeps hno) hn⟩
      have hlive : ∀ k, (w.setBaseSocket s.xBaseSocket (some x')).baseSockets k ≠ none ↔ w.baseSockets k ≠ none := by
        intro k
        by_cases hkk : k = s.xBaseSocket
        · simp [hkk, hx]
        · simp [hkk]
      refine h.keep (h.toSocketsInv.keep h.heapFresh (fun k hk => ?_) (fun _ _ => rfl) (fun t _ k _ hl => ?_) rfl rfl)
        (fun _ => Or.inl rfl) hlive rfl rfl (Nat.le_refl _)
      · have hdead := (hlive k).not
        rw [not_not, not_not] at hdead
        exact hdead.mpr (h.baseFresh k hk)
      · refine ⟨(hlive k).mpr hl, ?_⟩
        by_cases hkk : k = s.xBaseSocket
        · simp [portOf, hkk, hx, hbound, hport]
        · exact portOf_congr (Function.update_of_ne hkk _ _)

theorem report (h : LifeInv w opened) (ht : t ∈ opened) {s : TSNSocket} (hs : w.heap t = some (.tsnSocket s))
    (hrun : (prvReportSent cfg t).run w = .ok () w') :
    ((Reports w s → (w.errQueues s.xErrQueue).length < cfg.tsnconfigErrqueueLength) → LifeInv w' opened) ∧
      (¬(Reports w s → (w.errQueues s.xErrQueue).length < cfg.tsnconfigErrqueueLength) → ¬LiveExact w' opened) := by
  cases prvReportSent_inv h.heapFresh hs hrun with
  | nothing hno heq hle => exact ⟨fun _ => h.refused heq hle, fun hn => absurd (fun hr => absurd hr hno) hn⟩
  | queued _ hroom hparts =>
      exact ⟨fun _ => h.queued ht (errQueueOf_of_heap hs) hparts, fun hn => absurd (fun _ => hroom) hn⟩
  | dropped hr hfull => exact ⟨fun hk => absurd (hk hr) hfull, fun _ => h.dropped_lost⟩

theorem transmit (h : LifeInv w opened) {b : BufId} {usBoundPort : UInt16}
    (hrun : (LifecycleCall.run cfg opened (.transmit b usBoundPort)).run w = .ok opened' w') :
    (LifecycleCall.Keeps cfg w (.transmit b usBoundPort) → LifeInv w' opened') ∧
      (¬LifecycleCall.Keeps cfg w (.transmit b usBoundPort) → ¬LiveExact w' opened') := by
  rw [LifecycleCall.run, run_bind_ok (run_modifyBuf _ _ _)] at hrun
  obtain ⟨_, w₂, hsent, h₂⟩ := run_bind_inv hrun
  cases h₂
  have h₁ : LifeInv (w.setBuf b { w.bufs b with usBoundPort := usBoundPort }) opened :=
    h.keep (h.toSocketsInv.keep h.heapFresh h.baseFresh (fun _ _ => rfl) (fun _ _ _ _ hl => ⟨hl, rfl⟩) rfl rfl)
      (fun _ => Or.inl rfl) (fun _ => Iff.rfl) rfl rfl (Nat.le_refl _)
  generalize hw₁ : w.setBuf b { w.bufs b with usBoundPort := usBoundPort } = w₁ at h₁ hsent
  have hport : (w₁.bufs b).usBoundPort = usBoundPort := by simp [← hw₁]
  have hkeeps : LifecycleCall.Keeps cfg w (.transmit b usBoundPort) ↔
      ∀ t s, prvLookup usBoundPort w₁.xTSNBoundUDPSocketList = some t → w₁.heap t = some (.tsnSocket s) →
        Reports w₁ s → (w₁.errQueues s.xErrQueue).length < cfg.tsnconfigErrqueueLength := by
    subst hw₁
    exact forall₄_congr fun t s _ _ => ⟨fun hk hr => hk hr.1 hr.2, fun hk hf hm => hk ⟨hf, hm⟩⟩
  rw [prvTimestampSent, run_bind_ok (run_loadBuf w₁ b), hport] at hsent
  rw [hkeeps]
  cases hl : prvLookup usBoundPort w₁.xTSNBoundUDPSocketList with
  | none =>
      rw [run_bind_ok (run_vSocketFromPort_plain hl)] at hsent
      cases hsent
      refine ⟨fun _ => h₁, fun hn => absurd (fun _ _ hc => ?_) hn⟩
      cases hc
  | some t =>
      have ht := ((h₁.listed usBoundPort t).mp (prvLookup_mem hl)).1
      obtain ⟨s, -, hs, -⟩ := h₁.open_heap ht
      rw [run_bind_ok (run_vSocketFromPort_tsn hl hs)] at hsent
      obtain ⟨hkeep, hlose⟩ := h₁.report ht hs hsent
      refine ⟨fun hc => hkeep (hc t s rfl hs), fun hn => hlose fun hc => hn fun t' s' ht' hs' => ?_⟩
      cases ht'
      cases hs.symm.trans hs'
      exact hc

theorem call (h : LifeInv w opened) {c : LifecycleCall} (hv : c.Valid opened)
    (hrun : (c.run cfg opened).run w = .ok opened' w') :
    (c.Keeps cfg w → LifeInv w' opened') ∧ (¬c.Keeps cfg w → ¬LiveExact w' opened') := by
  cases c with
  | sockets c => exact h.socketCall hv hrun
  | setsockopt t lOptionName ulOptionValue =>
      obtain ⟨r, w₁, hset, h₁⟩ := run_bind_inv hrun
      cases h₁
      exact h.setsockopt hv hset
  | transmit b usBoundPort => exact h.transmit hrun

theorem run {w₀ : World} (h₀ : StartsEmpty w₀) (hrun : LifecycleRun cfg w₀ w opened) : LifeInv w opened := by
  induction hrun with
  | start => exact start h₀
  | call _ hv hk hcall ih => exact (ih.call hv hcall).1 hk

end LifeInv

end FreeRtosTsn.Resources
