import FreeRtosTsn.Scheduler.Service
import FreeRtosTsn.Scheduler.Lemmas.Tasks

/-!
# What the record of the insertions keeps

An insertion sends its item at most once, and returns whether it did. The queues grow at the end by the sends and
shrink at the front by the pops, so what they accepted is what was popped and what they hold.
-/

namespace FreeRtosTsn.Scheduler

open Lib Kernel

variable {cfg : Config}

/-! ## One insertion -/

/-- Whether the insertion has sent its item after a call. -/
def Call.sent : (o : Call) → Call.Res o → Bool → Bool
  | .xQueueSendToBack _ _ _, ok, sent => ok || sent
  | _, _, sent => sent

/-- A program that sends `pxItem` at most once, and nothing else, and returns whether it did. -/
def Sends (pxItem : NetworkQueueItem) : P Bool → Bool → Prop
  | .ret b, sent => b = sent
  | .call o k, sent => Call.ByTask o ∧
      (∀ q i t, o = .xQueueSendToBack q i t → i = pxItem ∧ sent = false) ∧
      ∀ r, Sends pxItem (k r) (o.sent r sent)

theorem xNetworkQueuePush_sends (q : NetworkQueue) (pxItem : NetworkQueueItem) (uxTimeout : Nat) :
    Sends pxItem (xNetworkQueuePush cfg q pxItem uxTimeout) false := by
  simp only [xNetworkQueuePush, call_eq, Prog.call_bind, Prog.ret_bind, Sends]
  refine ⟨trivial, by simp, fun sent => ?_⟩
  cases sent with
  | false => rfl
  | true =>
      cases hp : cfg.tsnconfigControllerHasDynamicPrio with
      | false => simp [xNotifyController, Sends, Call.ByTask, Call.sent]
      | true =>
          simp only [↓reduceIte, xTSNControllerUpdatePriority, hp, call_eq, Prog.call_bind, Prog.ret_bind, Sends]
          refine ⟨trivial, by simp, fun uxCurrent => ?_⟩
          by_cases h : uxCurrent < q.uxIPV <;> simp [h, xNotifyController, Sends, Call.ByTask, Call.sent]

/-- The item is pushed to the queue that was chosen, if there is one. -/
theorem xNetworkQueueChosen_sends (pxItem : NetworkQueueItem) (x : Option (NetworkBufferDescriptor × Mem))
    (qs : List NetworkQueue) (uxTimeout : Nat) :
    Sends pxItem
      (match prvChooseQueue pxItem x none qs with
        | some pxChosenQueue => xNetworkQueuePush cfg pxChosenQueue pxItem uxTimeout
        | none => .ret false) false := by
  cases prvChooseQueue pxItem x none qs with
  | none => rfl
  | some q => exact xNetworkQueuePush_sends q pxItem uxTimeout

theorem xNetworkQueueInsertPacketByFilter_sends (pxItem : NetworkQueueItem) (uxTimeout : Nat) :
    Sends pxItem (xNetworkQueueInsertPacketByFilter cfg pxItem uxTimeout) false := by
  simp only [xNetworkQueueInsertPacketByFilter, call_eq, Prog.call_bind, Prog.ret_bind, Sends]
  refine ⟨trivial, by simp, fun qs => ?_⟩
  cases pxItem.pxBuf with
  | none => exact xNetworkQueueChosen_sends pxItem none qs uxTimeout
  | some b => exact ⟨trivial, by simp, fun x => xNetworkQueueChosen_sends pxItem (some x) qs uxTimeout⟩

theorem xNetworkQueueInsertPacketByName_sends (pxItem : NetworkQueueItem) (pcQueueName : List UInt8)
    (uxTimeout : Nat) :
    Sends pxItem (xNetworkQueueInsertPacketByName cfg pxItem pcQueueName uxTimeout) false := by
  simp only [xNetworkQueueInsertPacketByName, pxNetworkQueueFindByName, call_eq, Prog.call_bind, Prog.ret_bind,
    Prog.pure_eq, Sends]
  refine ⟨trivial, by simp, fun qs => ?_⟩
  cases qs.find? fun q => prvMatchQueuePolicy pxItem q && prvSameName cfg pcQueueName q.cName with
  | none => rfl
  | some q => exact xNetworkQueuePush_sends q pxItem uxTimeout

theorem Inserts.sends {pxItem : NetworkQueueItem} {p : P Bool} (h : Inserts cfg pxItem p) : Sends pxItem p false := by
  rcases h with ⟨uxTimeout, rfl⟩ | ⟨pcQueueName, uxTimeout, rfl⟩
  · exact xNetworkQueueInsertPacketByFilter_sends pxItem uxTimeout
  · exact xNetworkQueueInsertPacketByName_sends pxItem pcQueueName uxTimeout

/-! ## The invariant -/

/-- Whether the insertion `n` was accepted: by one queue, once, or by none. -/
def Ledger.AcceptedBy (l : Ledger) (n : Nat) : Bool → Prop
  | true => Once fun q => (l.accepted q).count n
  | false => ∀ q, (l.accepted q).count n = 0

structure LedgerInv (S : Service) : Prop where
  fifo : ∀ q, (S.ledger.accepted q).map S.ledger.items = S.ledger.popped q ++ S.sys.w.queues q
  accepted_lt : ∀ q, ∀ n ∈ S.ledger.accepted q, n < S.ledger.inserted
  current_lt : ∀ t n, S.ledger.current t = some n → n < S.ledger.inserted
  current_inj : ∀ t t' n, S.ledger.current t = some n → S.ledger.current t' = some n → t = t'
  idle : ∀ t, S.ledger.current t = none → ∃ b, S.sys.tasks t = .ret b
  running : ∀ t n, S.ledger.current t = some n →
    S.ledger.returned n = none ∧
      ∃ sent, Sends (S.ledger.items n) (S.sys.tasks t) sent ∧ S.ledger.AcceptedBy n sent
  returned : ∀ n b, S.ledger.returned n = some b → n < S.ledger.inserted ∧ S.ledger.AcceptedBy n b

theorem Ledger.AcceptedBy.congr {l l' : Ledger} {n : Nat} {b : Bool} (h : l.AcceptedBy n b)
    (hc : ∀ q, (l'.accepted q).count n = (l.accepted q).count n) : l'.AcceptedBy n b := by
  cases b with
  | false => exact fun q => (hc q).trans (h q)
  | true =>
      obtain ⟨q, hq, hothers⟩ := h
      exact ⟨q, (hc q).trans hq, fun q' hq' => (hc q').trans (hothers q' hq')⟩

theorem Sends.accepted_send {l : Ledger} {n : Nat} (h : l.AcceptedBy n false) (q : QueueHandle)
    (i : NetworkQueueItem) (timeout : Nat) :
    (l.send n (.xQueueSendToBack q i timeout) true).AcceptedBy n true := by
  refine Added.once (i := q) (n := fun q => (l.accepted q).count n) ⟨?_, fun q' hq' => ?_⟩ h
  · simp [Ledger.send]
  · simp [Ledger.send, Function.update_of_ne hq']

/-- A new insertion has a number that no queue has accepted. -/
theorem LedgerInv.start {s : System} {l : Ledger} (h : LedgerInv ⟨s, l⟩) {t : Nat} {p : P Bool}
    {pxItem : NetworkQueueItem} (hp : Sends pxItem p false) :
    LedgerInv ⟨{ s with tasks := Function.update s.tasks t p }, l.start t pxItem⟩ := by
  have hitems : ∀ n, n < l.inserted → (l.start t pxItem).items n = l.items n := by
    intro n hn
    simp [Ledger.start, Function.update_of_ne (Nat.ne_of_lt hn)]
  have hfresh : l.returned l.inserted = none := by
    cases hr : l.returned l.inserted with
    | none => rfl
    | some b => exact absurd (h.returned _ b hr).1 (Nat.lt_irrefl _)
  refine ⟨fun q => ?_, fun q n hn => Nat.lt_succ_of_lt (h.accepted_lt q n hn), fun u n hu => ?_,
    fun u u' n hu hu' => ?_, fun u hu => ?_, fun u n hu => ?_, fun n b hr => ?_⟩
  · exact (List.map_congr_left fun n hn => hitems n (h.accepted_lt q n hn)).trans (h.fifo q)
  · by_cases hut : u = t
    · simp only [Ledger.start, hut, Function.update_self, Option.some.injEq] at hu
      exact hu ▸ Nat.lt_succ_self _
    · simp only [Ledger.start, Function.update_of_ne hut] at hu
      exact Nat.lt_succ_of_lt (h.current_lt u n hu)
  · by_cases hut : u = t <;> by_cases hut' : u' = t
    · rw [hut, hut']
    · simp only [Ledger.start, hut, Function.update_self, Option.some.injEq, Function.update_of_ne hut'] at hu hu'
      exact absurd (h.current_lt u' n hu') (by simp [← hu])
    · simp only [Ledger.start, hut', Function.update_self, Option.some.injEq, Function.update_of_ne hut] at hu hu'
      exact absurd (h.current_lt u n hu) (by simp [← hu'])
    · simp only [Ledger.start, Function.update_of_ne hut, Function.update_of_ne hut'] at hu hu'
      exact h.current_inj u u' n hu hu'
  · by_cases hut : u = t
    · simp [Ledger.start, hut] at hu
    · simp only [Ledger.start, Function.update_of_ne hut] at hu
      simpa [Function.update_of_ne hut] using h.idle u hu
  · by_cases hut : u = t
    · subst hut
      simp only [Ledger.start, Function.update_self, Option.some.injEq] at hu
      subst hu
      refine ⟨hfresh, false, by simpa [Ledger.start] using hp, fun q => List.count_eq_zero.mpr fun hm => ?_⟩
      exact absurd (h.accepted_lt q _ hm) (Nat.lt_irrefl _)
    · simp only [Ledger.start, Function.update_of_ne hut] at hu
      obtain ⟨hnone, sent, hsend, hacc⟩ := h.running u n hu
      refine ⟨hnone, sent, ?_, hacc⟩
      simpa [hitems n (h.current_lt u n hu), Function.update_of_ne hut] using hsend
  · exact ⟨Nat.lt_succ_of_lt (h.returned n b hr).1, (h.returned n b hr).2⟩

section Send

variable (l : Ledger) (n : Nat) (o : Call) (r : Call.Res o)

@[simp] theorem Ledger.send_items : (l.send n o r).items = l.items := by
  unfold Ledger.send
  split <;> rfl

@[simp] theorem Ledger.send_inserted : (l.send n o r).inserted = l.inserted := by
  unfold Ledger.send
  split <;> rfl

@[simp] theorem Ledger.send_current : (l.send n o r).current = l.current := by
  unfold Ledger.send
  split <;> rfl

@[simp] theorem Ledger.send_popped : (l.send n o r).popped = l.popped := by
  unfold Ledger.send
  split <;> rfl

@[simp] theorem Ledger.send_returned : (l.send n o r).returned = l.returned := by
  unfold Ledger.send
  split <;> rfl

theorem Ledger.mem_send {q : QueueHandle} {m : Nat} (h : m ∈ (l.send n o r).accepted q) :
    m ∈ l.accepted q ∨ m = n := by
  unfold Ledger.send at h
  split at h
  · rename_i q' _ _
    by_cases hq : q = q'
    · subst hq
      simpa using h
    · exact Or.inl (by simpa [Function.update_of_ne hq] using h)
  · exact Or.inl h

theorem Ledger.count_send {m : Nat} (hm : m ≠ n) (q : QueueHandle) :
    ((l.send n o r).accepted q).count m = (l.accepted q).count m := by
  unfold Ledger.send
  split
  · rename_i q' _ _
    by_cases hq : q = q'
    · subst hq
      simp [List.count_append, Ne.symm hm]
    · simp [Function.update_of_ne hq]
  · rfl

end Send

/-- What a call of the insertion `n` accepts. -/
theorem Ledger.AcceptedBy.send {l : Ledger} {n : Nat} {sent : Bool} (h : l.AcceptedBy n sent) {o : Call}
    (hsent : ∀ q i t, o = .xQueueSendToBack q i t → sent = false) (r : Call.Res o) :
    (l.send n o r).AcceptedBy n (o.sent r sent) := by
  cases o with
  | xQueueSendToBack q i t =>
      obtain rfl := hsent q i t rfl
      cases r with
      | false => exact h
      | true => exact Sends.accepted_send h q i t
  | _ => exact h

/-- The queues after a call of a task that may send the item of `n`. -/
theorem effect_fifo {l : Ledger} {n : Nat} {o : Call} {w w' : World} {r : Call.Res o} (ho : Call.ByTask o)
    (hi : ∀ q i t, o = .xQueueSendToBack q i t → i = l.items n) (he : effect cfg o w = .ok r w')
    (hfifo : ∀ q, (l.accepted q).map l.items = l.popped q ++ w.queues q) (q : QueueHandle) :
    ((l.send n o r).accepted q).map l.items = l.popped q ++ w'.queues q := by
  cases o with
  | xQueueSendToBack q' i t =>
      rw [effect_xQueueSendToBack] at he
      split at he
      · cases he
        by_cases hq : q = q'
        · subst hq
          simp [Ledger.send, hfifo, hi q i t rfl]
        · simp [Ledger.send, Function.update_of_ne hq, hfifo]
      · cases he
        exact hfifo q
  | xTaskNotifyGive => cases he; exact hfifo q
  | uxTaskPriorityGet => cases he; exact hfifo q
  | vTaskPrioritySet p => cases he; exact hfifo q
  | loadQueueList => cases he; exact hfifo q
  | loadBuf b => cases he; exact hfifo q
  | fault f => cases he
  | _ => exact ho.elim

/-- A call of the insertion `n`, which is not taken to end with it. -/
theorem LedgerInv.sent {s : System} {l : Ledger} (h : LedgerInv ⟨s, l⟩) {t n : Nat} {o : Call}
    {k : Call.Res o → P Bool} {r : Call.Res o} {w' : World} {enqueued : Nat → Option QueueHandle} {untaken : Nat}
    (ht : s.tasks t = .call (σ := Calls) o k) (hn : l.current t = some n) (he : effect cfg o s.w = .ok r w') :
    LedgerInv ⟨{ s with
      w := w'
      tasks := Function.update s.tasks t (k r)
      enqueued := enqueued
      untaken := untaken }, l.send n o r⟩ := by
  obtain ⟨hnone, sent, hsends, hacc⟩ := h.running t n hn
  rw [ht] at hsends
  obtain ⟨hby, hsend, hrest⟩ := hsends
  have hother : ∀ m, m ≠ n → ∀ b, l.AcceptedBy m b → (l.send n o r).AcceptedBy m b :=
    fun m hm b hb => hb.congr (l.count_send n o r hm)
  have hfifo := effect_fifo hby (fun q i t ho => (hsend q i t ho).1) he h.fifo
  refine ⟨by simpa using hfifo, fun q m hm => ?_,
    by simpa using h.current_lt, by simpa using h.current_inj, fun u hu => ?_, fun u m hu => ?_, fun m b hr => ?_⟩
  · rcases l.mem_send n o r hm with hm | rfl
    · simpa using h.accepted_lt q m hm
    · simpa using h.current_lt t _ hn
  · have hu' : l.current u = none := by simpa using hu
    have hut : u ≠ t := fun hut => by simp [hut, hn] at hu'
    simpa [Function.update_of_ne hut] using h.idle u hu'
  · have hu' : l.current u = some m := by simpa using hu
    by_cases hut : u = t
    · subst hut
      obtain rfl : n = m := Option.some.inj (hn.symm.trans hu')
      exact ⟨by simpa using hnone, _, by simpa using hrest r, hacc.send (fun q i t ho => (hsend q i t ho).2) r⟩
    · -- The other insertions are as they were.
      obtain ⟨hr, sent', hs, ha⟩ := h.running u m hu'
      have hmn : m ≠ n := fun hmn => hut (h.current_inj u t m hu' (hmn ▸ hn))
      exact ⟨by simpa using hr, sent', by simpa [Function.update_of_ne hut] using hs, hother m hmn sent' ha⟩
  · have hr' : l.returned m = some b := by simpa using hr
    have hmn : m ≠ n := by
      rintro rfl
      cases hnone.symm.trans hr'
    exact ⟨by simpa using (h.returned m b hr').1, hother m hmn b (h.returned m b hr').2⟩

/-- An insertion that has ended returned whether it was accepted. -/
theorem LedgerInv.ended {s : System} {l : Ledger} (h : LedgerInv ⟨s, l⟩) {t n : Nat} {b : Bool}
    (ht : s.tasks t = .ret b) (hn : l.current t = some n) : LedgerInv ⟨s, l.finish t n (.ret b)⟩ := by
  obtain ⟨-, sent, hsends, hacc⟩ := h.running t n hn
  rw [ht] at hsends
  obtain rfl : b = sent := hsends
  refine ⟨h.fifo, h.accepted_lt, fun u m hu => ?_, fun u u' m hu hu' => ?_, fun u hu => ?_, fun u m hu => ?_,
    fun m b' hr => ?_⟩
  · by_cases hut : u = t
    · simp [Ledger.finish, hut] at hu
    · exact h.current_lt u m (by simpa [Ledger.finish, Function.update_of_ne hut] using hu)
  · by_cases hut : u = t
    · simp [Ledger.finish, hut] at hu
    · by_cases hut' : u' = t
      · simp [Ledger.finish, hut'] at hu'
      · simp only [Ledger.finish, Function.update_of_ne hut, Function.update_of_ne hut'] at hu hu'
        exact h.current_inj u u' m hu hu'
  · by_cases hut : u = t
    · exact ⟨b, hut ▸ ht⟩
    · exact h.idle u (by simpa [Ledger.finish, Function.update_of_ne hut] using hu)
  · by_cases hut : u = t
    · simp [Ledger.finish, hut] at hu
    · have hu' : l.current u = some m := by simpa [Ledger.finish, Function.update_of_ne hut] using hu
      have hmn : m ≠ n := fun hmn => hut (h.current_inj u t m hu' (hmn ▸ hn))
      obtain ⟨hr, sent', hs, ha⟩ := h.running u m hu'
      exact ⟨by simpa [Ledger.finish, Function.update_of_ne hmn] using hr, sent', hs, ha⟩
  · by_cases hmn : m = n
    · simp only [Ledger.finish, hmn, Function.update_self, Option.some.injEq] at hr
      rw [hmn, ← hr]
      exact ⟨h.current_lt t n hn, hacc⟩
    · simp only [Ledger.finish, Function.update_of_ne hmn] at hr
      exact h.returned m b' hr

/-- An insertion that goes on, or ends with whether it was accepted. -/
theorem LedgerInv.call {s : System} {l : Ledger} (h : LedgerInv ⟨s, l⟩) {t n : Nat} {o : Call}
    {k : Call.Res o → P Bool} {r : Call.Res o} {w' : World} {enqueued : Nat → Option QueueHandle} {untaken : Nat}
    (ht : s.tasks t = .call (σ := Calls) o k) (hn : l.current t = some n) (he : effect cfg o s.w = .ok r w') :
    LedgerInv ⟨{ s with
      w := w'
      tasks := Function.update s.tasks t (k r)
      enqueued := enqueued
      untaken := untaken }, (l.send n o r).finish t n (k r)⟩ := by
  have hsent : LedgerInv ⟨{ s with
      w := w'
      tasks := Function.update s.tasks t (k r)
      enqueued := enqueued
      untaken := untaken }, l.send n o r⟩ := h.sent ht hn he
  cases hk : k r with
  | call o' k' =>
      rw [hk] at hsent
      exact hsent
  | ret b =>
      rw [hk] at hsent
      exact hsent.ended (Function.update_self t _ s.tasks) (by simpa using hn)

theorem LedgerInv.step {S S' : Service} (h : LedgerInv S) (hst : InsertStep cfg S S') : LedgerInv S' := by
  cases hst with
  | start ht hp => exact h.start hp.sends
  | call ht hn he => exact h.call ht hn he
  | tick => exact ⟨h.fifo, h.accepted_lt, h.current_lt, h.current_inj, h.idle, h.running, h.returned⟩

theorem LedgerInv.stable : Stable (serviceSem cfg) LedgerInv := fun _ _ h hst => h.step hst

theorem LedgerInv.keep {S : Service} (h : LedgerInv S) {e : Event} {w' : World} (hw : w'.queues = S.sys.w.queues) :
    LedgerInv ⟨S.sys.called e w', S.ledger⟩ :=
  ⟨fun q => (h.fifo q).trans (by rw [System.called_w, hw]), h.accepted_lt, h.current_lt, h.current_inj, h.idle,
    h.running, h.returned⟩

theorem LedgerInv.pop {S : Service} (h : LedgerInv S) {q : QueueHandle} {i : NetworkQueueItem}
    {is : List NetworkQueueItem} (hq : S.sys.w.queues q = i :: is) (timeout : Nat) :
    LedgerInv ⟨S.sys.called ⟨.xQueueReceive q timeout, some i⟩
      { S.sys.w with queues := Function.update S.sys.w.queues q is },
      S.ledger.receive (.xQueueReceive q timeout) (some i)⟩ := by
  refine ⟨fun q' => ?_, h.accepted_lt, h.current_lt, h.current_inj, h.idle, h.running, h.returned⟩
  have hfifo := h.fifo q'
  by_cases hqq : q' = q
  · subst hqq
    simpa [Ledger.receive, hq] using hfifo
  · simpa [Ledger.receive, Function.update_of_ne hqq] using hfifo

/-! ## The controller -/

/-- The record is kept, and a pop that is about to be made finds an item. -/
def ServicePre (o : Call) (S : Service) : Prop :=
  LedgerInv S ∧ ∀ q t, o = .xQueueReceive q t → S.sys.w.queues q ≠ []

/-- The queue that was found, if any, has an item. -/
def Found (r : Option NetworkQueue) (S : Service) : Prop :=
  LedgerInv S ∧ ∀ q, r = some q → S.sys.w.queues q.xQueue ≠ []

theorem InsertStep.nonempty {S S' : Service} (h : LedgerInv S) (hst : InsertStep cfg S S') {q : QueueHandle}
    (hq : S.sys.w.queues q ≠ []) : S'.sys.w.queues q ≠ [] := by
  cases hst with
  | start => exact hq
  | @call s l t n o k r w' ht hn he =>
      obtain ⟨-, sent, hsends, -⟩ := h.running t n hn
      rw [ht] at hsends
      exact (effect_keeps hsends.1 he).2.2.2 q hq
  | tick => exact hq

theorem Found.stable (r : Option NetworkQueue) : Stable (serviceSem cfg) (Found r) :=
  fun _ _ h hst => ⟨h.1.step hst, fun q hr => InsertStep.nonempty h.1 hst (h.2 q hr)⟩

theorem Call.Scheduling.receive {o : Call} (ho : o.Scheduling) (l : Ledger) (r : Call.Res o) :
    l.receive o r = l := by
  cases o <;> first | rfl | exact ho.elim

theorem service_call {α : Type} {o : Call} {k : Call.Res o → P α} {I : Service → Prop} {Q : α → Service → Prop}
    {S : Service} (hI : Stable (serviceSem cfg) I) (hS : I S) (hpre : ∀ S, I S → ServicePre o S)
    (hk : ∀ s l r w', I ⟨s, l⟩ → Acts cfg o s.w r w' →
      wp (serviceSem cfg) ServicePre (k r) Q ⟨s.called ⟨o, r⟩ w', l.receive o r⟩) :
    wp (serviceSem cfg) ServicePre (.call (σ := Calls) o k) Q S := by
  refine wp.call_of_stable hI hS hpre ?_
  rintro ⟨s, l⟩ r ⟨s', l'⟩ h ⟨⟨w', hw, hs⟩, hl⟩
  dsimp only at hs hl hw
  rw [hs, hl]
  exact hk s l r w' h hw

theorem fault_service {α : Type} {Q : α → Service → Prop} (f : Fault) {S : Service} (h : LedgerInv S) :
    wp (serviceSem cfg) ServicePre (fault f) Q S :=
  service_call LedgerInv.stable h (fun _ h => ⟨h, by simp⟩) fun _ _ r => r.elim

theorem scheduling_service {α : Type} {p : P α} (hp : p.Within Call.Scheduling) {S : Service} (h : LedgerInv S) :
    wp (serviceSem cfg) ServicePre p (fun _ => LedgerInv) S := by
  refine wp.frame hp LedgerInv.stable h (fun o S ho h => ⟨h, ?_⟩) ?_
  · rintro q t rfl
    exact ho.elim
  · rintro o ⟨s, l⟩ r ⟨s', l'⟩ ho h ⟨⟨w', hw, rfl⟩, rfl⟩
    simpa only [ho.receive] using h.keep (Acts.scheduling ho hw).queues

theorem prvCallTerminal_service (q : NetworkQueue) {S : Service} (h : LedgerInv S) :
    wp (serviceSem cfg) ServicePre (prvCallTerminal q) Found S := by
  simp only [prvCallTerminal, xNetworkQueueIsEmpty, call_eq, Prog.call_bind, Prog.ret_bind, Prog.pure_eq]
  refine service_call LedgerInv.stable h (fun S h => ⟨h, by simp⟩) ?_
  intro s l n w' h hw
  cases hw
  have hkeep : LedgerInv ⟨s.called ⟨.uxQueueMessagesWaiting q.xQueue, (s.w.queues q.xQueue).length⟩ s.w, l⟩ :=
    h.keep rfl
  by_cases hne : s.w.queues q.xQueue = []
  · rw [if_pos (by simp [hne])]
    exact wp.ret_of_stable (Found.stable none) ⟨hkeep, by simp⟩ fun _ h => h
  · rw [if_neg (by simpa using hne)]
    refine wp.ret_of_stable (Found.stable (some q)) ⟨hkeep, fun q' hq' => ?_⟩ fun _ h => h
    cases hq'
    exact hne

mutual
theorem pxNetworkSchedulerCall_service : (n : NetworkNode) → {S : Service} → LedgerInv S →
    wp (serviceSem cfg) ServicePre (pxNetworkSchedulerCall cfg n) Found S
  | .null, S, h => by
      rw [pxNetworkSchedulerCall]
      exact fault_service .null h
  | .mk n g q next, S, h => by
      simp only [pxNetworkSchedulerCall]
      refine wp.bind (wp.mono ?_ (scheduling_service (netschedCallReadyFromNode_scheduling g q) h))
      intro ready S h
      cases ready with
      | false => exact wp.ret_of_stable (Found.stable none) ⟨h, by simp⟩ fun _ h => h
      | true =>
          cases q with
          | some q => exact prvCallTerminal_service q h
          | none =>
              cases hsel : g.fnSelect with
              | prvSelectFirst => exact prvSelectFirst_service next h
              | prvPrioritySelect => exact prvPrioritySelect_service n next h

theorem prvSelectFirst_service : (ns : List NetworkNode) → {S : Service} → LedgerInv S →
    wp (serviceSem cfg) ServicePre (prvSelectFirst cfg ns) Found S
  | [], S, h => by
      rw [prvSelectFirst]
      exact fault_service .heap h
  | child :: _, S, h => by
      rw [prvSelectFirst]
      exact pxNetworkSchedulerCall_service child h

theorem prvPrioritySelect_service : (n : Nat) → (ns : List NetworkNode) → {S : Service} → LedgerInv S →
    wp (serviceSem cfg) ServicePre (prvPrioritySelect cfg n ns) Found S
  | 0, _, S, h => by
      simp only [prvPrioritySelect]
      exact wp.ret_of_stable (Found.stable none) ⟨h, by simp⟩ fun _ h => h
  | _ + 1, [], S, h => by
      simp only [prvPrioritySelect]
      exact fault_service .heap h
  | n + 1, child :: ns, S, h => by
      simp only [prvPrioritySelect]
      refine wp.bind (wp.mono ?_ (pxNetworkSchedulerCall_service child h))
      intro r S h
      cases r with
      | some q => exact wp.ret_of_stable (Found.stable (some q)) h fun _ h => h
      | none => exact prvPrioritySelect_service n ns h.1
end

theorem xNetworkQueueSchedule_service (root : NetworkNode) {S : Service} (h : LedgerInv S) :
    wp (serviceSem cfg) ServicePre (xNetworkQueueSchedule cfg root) Found S := by
  cases root with
  | null => exact wp.ret_of_stable (Found.stable none) ⟨h, by simp⟩ fun _ h => h
  | mk => exact pxNetworkSchedulerCall_service _ h

theorem finishing_service {α : Type} {p : P α} (hp : p.Within Call.Finishing) {S : Service} (h : LedgerInv S) :
    wp (serviceSem cfg) ServicePre p (fun _ => LedgerInv) S := by
  refine wp.frame hp LedgerInv.stable h (fun o S ho h => ⟨h, ?_⟩) ?_
  · rintro q t rfl
    exact ho.elim
  · rintro o ⟨s, l⟩ r ⟨s', l'⟩ ho h ⟨⟨w', hw, hs⟩, hl⟩
    dsimp only at hs hl hw
    rw [hs, hl]
    cases o with
    | serve q i => exact h.keep hw.queues
    | uxQueueMessagesWaiting q => cases hw; exact h.keep rfl
    | loadQueueList => cases hw; exact h.keep rfl
    | vTaskPrioritySet p => cases hw; exact h.keep rfl
    | _ => exact ho.elim

theorem prvTSNControllerServeQueue_service (q : NetworkQueue) {S : Service} (h : Found (some q) S) :
    wp (serviceSem cfg) ServicePre (prvTSNControllerServeQueue cfg q) (fun _ => LedgerInv) S := by
  simp only [prvTSNControllerServeQueue, xNetworkQueuePop, xNetworkQueueIsEmpty, call_eq, Prog.call_bind,
    Prog.ret_bind, Prog.pure_eq]
  refine service_call (Found.stable (some q)) h (fun S h => ⟨h.1, ?_⟩) ?_
  · rintro q' t hq
    cases hq
    exact h.2 q rfl
  · rintro s l r w' ⟨h, hne⟩ hw
    cases hw
    cases hq : s.w.queues q.xQueue with
    | nil => exact absurd hq (hne q rfl)
    | cons i is =>
        refine finishing_service ?_ (h.pop hq 0)
        refine ⟨trivial, fun _ => ?_⟩
        cases cfg.tsnconfigControllerHasDynamicPrio with
        | false => trivial
        | true =>
            refine ⟨trivial, fun n => ?_⟩
            dsimp only
            split
            · refine vTSNControllerComputePriority_finishing.bind fun _ => ?_
              trivial
            · trivial

theorem prvTSNController_service (root : NetworkNode) (l : ControllerLoop) {S : Service} (h : LedgerInv S) :
    wp (serviceSem cfg) ServicePre ((serviceLoops cfg root).body l) (fun _ => LedgerInv)
      ((serviceLoops cfg root).enter l S) := by
  cases l with
  | outer => exact scheduling_service prvTSNControllerSleep_scheduling h
  | inner =>
      have henter : LedgerInv ((serviceLoops cfg root).enter .inner S) :=
        ⟨h.fifo, h.accepted_lt, h.current_lt, h.current_inj, h.idle, h.running, h.returned⟩
      refine wp.bind (wp.mono ?_ (xNetworkQueueSchedule_service root henter))
      intro r S h
      cases r with
      | none => exact wp.ret_of_stable LedgerInv.stable h.1 fun _ h => h
      | some q => exact prvTSNControllerServeQueue_service q h

theorem Starts.ledger {s : System} (h : Starts s) : LedgerInv ⟨s, {}⟩ where
  fifo q := by simp [h.queues q]
  accepted_lt := by simp
  current_lt := by simp
  current_inj := by simp
  idle t _ := h.idle t
  running := by simp
  returned := by simp

/-! ## What the record says -/

/-- What a queue accepted once is in it, or was popped from it. -/
theorem Ledger.count_places (l : Ledger) (n : Nat) (q : QueueHandle) :
    l.count n (.inQueue q) + l.count n (.popped q) = (l.accepted q).count n := by
  rw [Ledger.count, Ledger.count, Nat.add_comm, ← List.count_append, List.take_append_drop]

theorem LedgerInv.exact {S : Service} (h : LedgerInv S) : S.ledger.Exact S.sys.w where
  passed n hn := by
    obtain ⟨q, hq, hothers⟩ := (h.returned n true hn).2
    have hzero : ∀ q', q' ≠ q → S.ledger.count n (.inQueue q') = 0 ∧ S.ledger.count n (.popped q') = 0 := by
      intro q' hq'
      have hsum := (S.ledger.count_places n q').trans (hothers q' hq')
      exact ⟨Nat.eq_zero_of_add_eq_zero_right hsum, Nat.eq_zero_of_add_eq_zero_left hsum⟩
    have hsum := (S.ledger.count_places n q).trans hq
    by_cases hin : S.ledger.count n (.inQueue q) = 0
    · refine ⟨.popped q, by omega, fun p hp => ?_⟩
      cases p with
      | inQueue q' =>
          by_cases hqq : q' = q
          · exact hqq ▸ hin
          · exact (hzero q' hqq).1
      | popped q' => exact (hzero q' fun hqq => hp (by rw [hqq])).2
    · refine ⟨.inQueue q, by omega, fun p hp => ?_⟩
      cases p with
      | inQueue q' => exact (hzero q' fun hqq => hp (by rw [hqq])).1
      | popped q' =>
          by_cases hqq : q' = q
          · subst hqq
            omega
          · exact (hzero q' hqq).2
  failed n hn p := by
    have hnone := (h.returned n false hn).2
    cases p with
    | inQueue q => exact Nat.eq_zero_of_add_eq_zero_right ((S.ledger.count_places n q).trans (hnone q))
    | popped q => exact Nat.eq_zero_of_add_eq_zero_left ((S.ledger.count_places n q).trans (hnone q))
  fifo := h.fifo

end FreeRtosTsn.Scheduler
