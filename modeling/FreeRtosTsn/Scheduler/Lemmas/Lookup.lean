import FreeRtosTsn.Scheduler.Filter
import FreeRtosTsn.Scheduler.Lemmas.Ready
import FreeRtosTsn.Scheduler.Lemmas.Registry

/-!
# Loops over the registry

What the loops over the list of queues touch and find, and that they find what the loops over a list of values find.
-/

namespace FreeRtosTsn.Scheduler.Registry

open Lib Kernel

variable {cfg : Config} {s : Registry} {created items live : List Addr} {pxItem : NetworkQueueItem}

theorem Listed.map_queueOf (h : Listed created items s) : items.map (fun a => (s.queueOf a).getD 0) = created := by
  have hmap := congrArg (List.map fun o => o.getD 0) h.queues
  rw [List.map_map, List.map_map] at hmap
  exact hmap.trans (List.map_id created)

/-- A loop along the items is one over the queues. -/
theorem run_prvEachQueue {β : Type} (h : Listed created items s)
    (body : Registry → Addr → β → Except RegistryFault (ForInStep β)) (b : β) :
    (prvEachQueue body b).run s = match forIn created b (body s) with
      | .ok r => .ok r s
      | .error e => .error e s := by
  have hload : ∀ a ∈ items, ((s.loadItem a).map fun item => (item.pxQueue, item.pxNext)) =
      .ok ((s.queueOf a).getD 0, s.next a) := by
    intro a ha
    obtain ⟨item, hitem⟩ := h.itemAt ha
    rw [loadItem, hitem, queueOf, next, hitem]
    rfl
  rw [prvEachQueue, run_reads]
  cases hloop : forIn created b (body s) with
  | ok r => rw [h.walk.chase_eq hload h.length_le, h.map_queueOf, hloop]
  | error e => rw [h.walk.chase_eq hload h.length_le, h.map_queueOf, hloop]

/-! ## What is touched -/

/-- The block that was accessed is live, and the loop was not endless. -/
def Harmless (e : RegistryFault) : Prop := e ≠ .code .heap ∧ e ≠ .endless

theorem Alive.loadQueue (h : Alive live s) {a : Addr} (ha : a ∈ live) :
    ∃ q, s.queueAt a = some q ∧ s.loadQueue a = .ok q ∧ q.fnFilter.isSome := by
  obtain ⟨q, hq, hfilter, -⟩ := h.block a ha
  exact ⟨q, hq, loadQueue_of_eq hq, hfilter⟩

theorem prvFilter_harmless (s : Registry) (pxItem : NetworkQueueItem) (q : QueueBlock) :
    Ends (fun _ => True) Harmless (s.prvFilter pxItem q) := by
  rw [prvFilter]
  split
  · trivial
  · exact ⟨by decide, by decide⟩

/-- The one of two queues that is chosen. -/
def better (s : Registry) (a : Addr) (q : QueueBlock) : Option Addr → Option Addr
  | none => some a
  | some c => if (s.queueAt c).any fun p => q.uxIPV ≤ p.uxIPV then some c else some a

theorem mem_better {a b : Addr} {q : QueueBlock} {c : Option Addr} (h : b ∈ better s a q c) : b = a ∨ b ∈ c := by
  cases c with
  | none => exact .inl (Option.mem_some.mp h).symm
  | some c =>
      rw [better] at h
      split at h
      · exact .inr h
      · exact .inl (Option.mem_some.mp h).symm

theorem prvChoose_eq {a : Addr} {q : QueueBlock} (hq : s.queueAt a = some q) {c : Option Addr}
    (hc : ∀ b ∈ c, ∃ p, s.queueAt b = some p) : prvChoose pxItem s a c =
      (s.prvFilter pxItem q).map fun r =>
        .yield (if r && prvMatchQueuePolicy pxItem q.toQueue then better s a q c else c) := by
  simp only [prvChoose, loadQueue_of_eq hq, bind, Except.bind]
  cases hfilter : s.prvFilter pxItem q with
  | error e => rfl
  | ok r =>
      cases hadmits : r && prvMatchQueuePolicy pxItem q.toQueue with
      | false => simp [hadmits, pure, Except.pure, Except.map]
      | true =>
          cases c with
          | none => simp [hadmits, better, pure, Except.pure, Except.map]
          | some c =>
              obtain ⟨p, hp⟩ := hc c rfl
              simp [hadmits, better, hp, loadQueue_of_eq hp, pure, Except.pure, Except.map]
              split <;> rfl

/-- The chosen queue stays a live one. -/
theorem prvChoose_ends (h : Alive live s) {a : Addr} (ha : a ∈ live) {c : Option Addr} (hc : ∀ b ∈ c, b ∈ live) :
    Ends (fun r => ∀ b ∈ r.value, b ∈ live) Harmless (prvChoose pxItem s a c) := by
  obtain ⟨q, hq, -⟩ := h.loadQueue ha
  have hfilter := prvFilter_harmless s pxItem q
  rw [prvChoose_eq hq fun b hb => (h.block b (hc b hb)).imp fun _ h => h.1]
  cases hr : s.prvFilter pxItem q with
  | error e =>
      rw [hr] at hfilter
      exact hfilter
  | ok r =>
      intro b hb
      dsimp only [ForInStep.value] at hb
      split at hb
      · rcases mem_better hb with rfl | hb
        · exact ha
        · exact hc b hb
      · exact hc b hb

/-- The queue is found by this name. -/
def Named (cfg : Config) (pcName : List UInt8) (pxItem : NetworkQueueItem) (s : Registry) (a : Addr) : Bool :=
  (s.queueAt a).any fun q => prvMatchQueuePolicy pxItem q.toQueue && prvSameName cfg pcName q.cName

theorem prvFind_eq {pcName : List UInt8} {a : Addr} {q : QueueBlock} (hq : s.queueAt a = some q) (b : Option Addr) :
    prvFind cfg pcName pxItem s a b = .ok (if Named cfg pcName pxItem s a then .done (some a) else .yield none) := by
  simp only [prvFind, loadQueue_of_eq hq, bind, Except.bind, Named, hq, Option.any_some]
  split <;> rfl

/-- The next priority of the controller. -/
def raised (s : Registry) (q : QueueBlock) (uxPriority : Nat) : Nat :=
  if (s.w.queues q.xQueue).isEmpty then uxPriority else if q.uxIPV > uxPriority then q.uxIPV else uxPriority

theorem prvPriority_eq {a : Addr} {q : QueueBlock} (hq : s.queueAt a = some q) (uxPriority : Nat) :
    prvPriority s a uxPriority = .ok (.yield (raised s q uxPriority)) := by
  simp only [prvPriority, loadQueue_of_eq hq, bind, Except.bind, raised]
  split <;> rfl

theorem run_pxNetworkQueueFindByName (hlisted : Listed live items s) (h : Alive live s) (cfg : Config)
    (pcName : List UInt8) (pxItem : NetworkQueueItem) : (pxNetworkQueueFindByName cfg pcName pxItem).run s =
      .ok (live.find? (Named cfg pcName pxItem s)) s := by
  have hfind : forIn live none (prvFind cfg pcName pxItem s) = .ok (live.find? (Named cfg pcName pxItem s)) :=
    forIn_find fun a ha b => by
      obtain ⟨q, hq, -⟩ := h.loadQueue ha
      exact prvFind_eq hq b
  rw [pxNetworkQueueFindByName, run_prvEachQueue hlisted, hfind]

/-- The push goes to the kernel queue of the block, or does nothing if it is full. -/
theorem run_xNetworkQueuePush (cfg : Config) {a : Addr} {q : QueueBlock} (hq : s.queueAt a = some q)
    (pxItem : NetworkQueueItem) (uxTimeout : Nat) : ∃ r w, (xNetworkQueuePush cfg a pxItem uxTimeout).run s =
      .ok r { s with w := w } ∧ (r = true ↔ s.HasRoom cfg a) ∧ (r = false → w = s.w) ∧
        (r = true → Pushed s.w w q.xQueue pxItem) := by
  obtain ⟨w, hrun, hpush⟩ := exec_xNetworkQueuePush cfg s.w pxItem q.toQueue uxTimeout
  refine ⟨decide ((s.w.queues q.xQueue).length < cfg.ipconfigEventQueueLength), w, ?_, ?_, ?_, ?_⟩
  · rw [xNetworkQueuePush, run_bind_ok (run_reads_ok (loadQueue_of_eq hq)), run_onWorld, hrun]
    rfl
  · rw [decide_eq_true_iff, HasRoom, contents, hq]
    simp
  · intro hr
    rwa [if_neg (by exact of_decide_eq_false hr)] at hpush
  · intro hr
    rwa [if_pos (by exact of_decide_eq_true hr)] at hpush

/-- Loops over live queues touch live queues. -/
theorem traversal_harmless (hlisted : Listed live items s) (h : Alive live s) (t : Traversal) {e : RegistryFault}
    {s' : Registry} (hrun : (t.run cfg).run s = .error e s') : Harmless e := by
  cases t with
  | xNetworkQueueInsertPacketByFilter pxItem uxTimeout =>
      have hends : Ends (fun c => ∀ b ∈ c, b ∈ live) Harmless (forIn live none (prvChoose pxItem s)) :=
        forIn_ends (fun a ha c hc => prvChoose_ends h ha hc) fun b hb => nomatch hb
      rw [Traversal.run, EStateM.run_bind, xNetworkQueueInsertPacketByFilter, EStateM.run_bind,
        run_prvEachQueue hlisted] at hrun
      cases hloop : forIn live none (prvChoose pxItem s) with
      | error e' =>
          rw [hloop] at hrun hends
          cases hrun
          exact hends
      | ok c =>
          rw [hloop] at hrun hends
          cases c with
          | none => cases hrun
          | some c =>
              obtain ⟨q, hq, -⟩ := h.loadQueue (hends c rfl)
              obtain ⟨r, w, hpush, -⟩ := run_xNetworkQueuePush cfg hq pxItem uxTimeout
              dsimp only at hrun
              rw [hpush] at hrun
              cases hrun
  | pxNetworkQueueFindByName pcName pxItem =>
      rw [Traversal.run, EStateM.run_bind, run_pxNetworkQueueFindByName hlisted h] at hrun
      cases hrun
  | vTSNControllerComputePriority =>
      have hends : Ends (fun _ => True) Harmless (forIn live (controllerTsnTaskBasePrio cfg) (prvPriority s)) :=
        forIn_ends (fun a ha p _ => by
          obtain ⟨q, hq, -⟩ := h.loadQueue ha
          rw [prvPriority_eq hq]
          trivial) trivial
      rw [Traversal.run, Registry.vTSNControllerComputePriority, EStateM.run_bind, run_prvEachQueue hlisted] at hrun
      cases hloop : forIn live (controllerTsnTaskBasePrio cfg) (prvPriority s) with
      | error e' =>
          rw [hloop] at hrun hends
          cases hrun
          exact hends
      | ok p =>
          rw [hloop] at hrun
          cases hrun

/-! ## Names -/

/-- Names are compared as a whole as long as the stored one has its terminator. -/
theorem prvSameName_eq {pcName cName : List UInt8} (h : cName.length < cfg.tsnconfigMaxQueueNameLen) :
    prvSameName cfg pcName cName = (cName == pcName) := by
  rw [prvSameName, List.take_of_length_le h.le, Bool.eq_iff_iff, beq_iff_eq, beq_iff_eq]
  constructor
  · intro htake
    have hlen := congrArg List.length htake
    rw [List.length_take] at hlen
    rw [← htake, List.take_of_length_le (by omega)]
  · rintro rfl
    exact List.take_of_length_le h.le

/-- The block of a queue is what it was created with. -/
def Holds (s : Registry) (a : Addr) (x : NewQueue) : Prop :=
  a < s.w.calls ∧ ∃ xQueue, s.queueAt a = some (x.block xQueue)

theorem RegistryRun.holds {calls : List RegistryCall} (h : RegistryRun cfg calls live s) {xs : List NewQueue}
    (hxs : calls = xs.map .create) :
    List.Forall₂ s.Holds live xs ∧ (s.overruns = [] ↔ ∀ x ∈ xs, x.Fits cfg) := by
  induction h generalizing xs with
  | boot env =>
      obtain rfl := List.map_eq_nil_iff.mp hxs.symm
      exact ⟨.nil, iff_of_true rfl fun _ h => absurd h List.not_mem_nil⟩
  | other h hcalls ih =>
      obtain ⟨hholds, hfits⟩ := ih hxs
      exact ⟨hholds.imp fun a x hax => ⟨Nat.lt_of_lt_of_le hax.1 hcalls, hax.2⟩, hfits⟩
  | @create calls live s s' x a h hrun ih =>
      rcases List.eq_nil_or_concat xs with rfl | ⟨xs, y, rfl⟩
      · simp at hxs
      · rw [List.concat_eq_append, List.map_append, List.map_singleton] at hxs
        obtain ⟨rfl, hlast⟩ := List.append_inj' hxs rfl
        cases hlast
        obtain ⟨hholds, hfits⟩ := ih rfl
        obtain ⟨created, items, hinv, -⟩ := h.inv
        obtain ⟨rfl, hcreates, -⟩ := pxNetworkQueueCreate_inv hinv.listed hrun
        have hcalls : s'.w.calls = s.w.calls + 3 := by rw [hcreates.w]; rfl
        rw [List.concat_eq_append]
        constructor
        · refine List.rel_append (hholds.imp fun b y hby => ?_) (.cons ?_ .nil)
          · rw [Holds, hcreates.queueAt, Function.update_of_ne (Nat.ne_of_lt hby.1), hcalls]
            exact ⟨Nat.lt_add_right 3 hby.1, hby.2⟩
          · rw [Holds, hcreates.queueAt, Function.update_self, hcalls]
            exact ⟨Nat.lt_add_of_pos_right (by decide), _, rfl⟩
        · rw [hcreates.overruns]
          by_cases hx : x.Fits cfg
          · rw [if_pos hx, hfits]
            simp [or_imp, forall_and, hx]
          · rw [if_neg hx]
            simp [or_imp, forall_and, hx]
  | @free calls live s s' a h ha hrun ih =>
      have hmem : RegistryCall.free a ∈ xs.map .create := hxs ▸ List.mem_append_right _ List.mem_cons_self
      obtain ⟨x, -, hx⟩ := List.mem_map.mp hmem
      cases hx

/-- What is found among the queues is what is found among their arguments. -/
theorem find_zip {p : Addr → Bool} {p' : NewQueue → Bool} {xs : List NewQueue} (h : List.Forall₂ s.Holds live xs)
    (hp : ∀ a, ∀ x ∈ xs, s.Holds a x → p a = p' x) :
    live.find? p = ((live.zip xs).find? fun (_, x) => p' x).map Prod.fst := by
  induction h with
  | nil => rfl
  | @cons a x live xs hax h ih =>
      have hrest := ih fun b y hy => hp b y (List.mem_cons_of_mem x hy)
      rw [List.zip_cons_cons, List.find?_cons, List.find?_cons, hp a x List.mem_cons_self hax, hrest]
      dsimp only
      cases p' x <;> rfl

theorem named_eq {a : Addr} {x : NewQueue} (h : s.Holds a x) (hfits : x.Fits cfg) (pcName : CString) :
    Named cfg pcName.bytes pxItem s a =
      (prvMatchQueuePolicy pxItem (x.block 0).toQueue && x.given == pcName.bytes) := by
  obtain ⟨-, xQueue, hq⟩ := h
  rw [Named, hq, Option.any_some, ← prvSameName_eq hfits]
  rfl

theorem find_eq_earliest {xs : List NewQueue} (h : List.Forall₂ s.Holds live xs) (hfits : ∀ x ∈ xs, x.Fits cfg)
    (pcName : CString) (pxItem : NetworkQueueItem) :
    live.find? (Named cfg pcName.bytes pxItem s) = earliest xs live pcName pxItem :=
  find_zip h fun _ x hx hax => named_eq hax (hfits x hx) pcName

/-- A push to a live queue changes no other one. -/
theorem Alive.insertsInto (h : Alive live s) {a : Addr} (ha : a ∈ live) {q : QueueBlock} (hq : s.queueAt a = some q)
    {w : World} (hpush : Pushed s.w w q.xQueue pxItem) : InsertsInto live a pxItem s { s with w := w } where
  registry := rfl
  appended := by
    rw [contents, contents, hq, hpush.eq]
    simp
  others b hb hne := by
    obtain ⟨p, hp, -⟩ := h.block b hb
    have hhandle : p.xQueue ≠ q.xQueue := fun heq => hne (h.own b hb a ha p q hp hq heq)
    rw [contents, contents, hp, hpush.eq]
    simp [hhandle]

theorem run_xNetworkQueueInsertPacketByName (hlisted : Listed live items s) (h : Alive live s) (cfg : Config)
    (pxItem : NetworkQueueItem) (pcName : List UInt8) (uxTimeout : Nat) : ∃ r s',
    (xNetworkQueueInsertPacketByName cfg pxItem pcName uxTimeout).run s = .ok r s' ∧
      (r = true ↔ ∃ a, live.find? (Named cfg pcName pxItem s) = some a ∧ s.HasRoom cfg a) ∧ (r = false → s' = s) ∧
      (r = true → ∃ a, live.find? (Named cfg pcName pxItem s) = some a ∧ InsertsInto live a pxItem s s') := by
  rw [xNetworkQueueInsertPacketByName, EStateM.run_bind, run_pxNetworkQueueFindByName hlisted h]
  cases hfind : live.find? (Named cfg pcName pxItem s) with
  | none => exact ⟨false, s, rfl, by simp, fun _ => rfl, Bool.noConfusion⟩
  | some a =>
      have ha := List.mem_of_find?_eq_some hfind
      obtain ⟨q, hq, -⟩ := h.loadQueue ha
      obtain ⟨r, w, hrun, hroom, hfull, hpush⟩ := run_xNetworkQueuePush cfg hq pxItem uxTimeout
      refine ⟨r, { s with w := w }, hrun, by simpa using hroom, fun hr => ?_,
        fun hr => ⟨a, rfl, h.insertsInto ha hq (hpush hr)⟩⟩
      rw [hfull hr]

/-! ## The list of values -/

def value (s : Registry) (a : Addr) : Option NetworkQueue := (s.queueAt a).map QueueBlock.toQueue

/-- The list of the world is that of the registry. -/
def Agrees (live : List Addr) (s : Registry) : Prop := s.w.pxNetworkQueueList = live.filterMap s.value

theorem value_eq {a : Addr} {q : QueueBlock} (h : s.queueAt a = some q) : s.value a = some q.toQueue := by
  rw [value, h]
  rfl

theorem filterMap_value_cons {a : Addr} {q : QueueBlock} (h : s.queueAt a = some q) (l : List Addr) :
    (a :: l).filterMap s.value = q.toQueue :: l.filterMap s.value := by
  rw [List.filterMap_cons, value_eq h]

theorem find_value (h : Alive live s) (pcName : List UInt8) :
    (live.find? (Named cfg pcName pxItem s)).bind s.value =
      (live.filterMap s.value).find? fun q => prvMatchQueuePolicy pxItem q && prvSameName cfg pcName q.cName := by
  induction live with
  | nil => rfl
  | cons a live ih =>
      obtain ⟨q, hq, -⟩ := h.loadQueue List.mem_cons_self
      have hnamed : Named cfg pcName pxItem s a =
          (prvMatchQueuePolicy pxItem q.toQueue && prvSameName cfg pcName q.toQueue.cName) := by
        rw [Named, hq]
        rfl
      rw [filterMap_value_cons hq, List.find?_cons, List.find?_cons, hnamed]
      split
      · exact value_eq hq
      · exact ih (h.sublist (List.sublist_cons_self a live))

/-- The lookup along the items finds the queue that the lookup in the list finds. -/
theorem findByName_value (hlisted : Listed live items s) (h : Alive live s) (hagrees : Agrees live s)
    (pcName : List UInt8) : ∃ a, (pxNetworkQueueFindByName cfg pcName pxItem).run s = .ok a s ∧
      (exec cfg (Scheduler.pxNetworkQueueFindByName cfg pcName pxItem)).run s.w = .ok (a.bind s.value) s.w := by
  refine ⟨_, run_pxNetworkQueueFindByName hlisted h cfg pcName pxItem, ?_⟩
  rw [find_value h, ← hagrees]
  rfl

theorem better_value {a : Addr} {q : QueueBlock} (hq : s.queueAt a = some q) {c : Option Addr}
    (hc : ∀ b ∈ c, ∃ p, s.queueAt b = some p) : (better s a q c).bind s.value =
      match c.bind s.value with
      | some p => if q.toQueue.uxIPV ≤ p.uxIPV then some p else some q.toQueue
      | none => some q.toQueue := by
  cases c with
  | none => exact value_eq hq
  | some c =>
      obtain ⟨p, hp⟩ := hc c rfl
      have hany : (s.queueAt c).any (fun p => q.uxIPV ≤ p.uxIPV) = decide (q.uxIPV ≤ p.uxIPV) := by
        rw [hp, Option.any_some]
      rw [better, hany, Option.bind_some, value_eq hp]
      by_cases hle : q.uxIPV ≤ p.uxIPV
      · rw [if_pos (decide_eq_true hle)]
        exact (value_eq hp).trans (if_pos hle).symm
      · rw [if_neg (by rw [decide_eq_false hle]; exact Bool.noConfusion)]
        exact (value_eq hq).trans (if_neg hle).symm

/-- The two loops choose the same queue, from the same best match so far. -/
theorem prvChoose_value (h : Alive live s) {l : List Addr} (hl : ∀ a ∈ l, a ∈ live) {c : Option Addr}
    (hc : ∀ a ∈ c, a ∈ live) : ∃ c', forIn l c (prvChoose pxItem s) = .ok c' ∧ (∀ a ∈ c', a ∈ live) ∧
      c'.bind s.value =
        prvChooseQueue pxItem (bufferOf s.w pxItem.pxBuf) (c.bind s.value) (l.filterMap s.value) := by
  induction l generalizing c with
  | nil =>
      refine ⟨c, rfl, hc, ?_⟩
      rw [List.filterMap_nil]
      cases c.bind s.value <;> rfl
  | cons a l ih =>
      have ha := hl a List.mem_cons_self
      obtain ⟨q, hq, -, hfilter⟩ := h.loadQueue ha
      obtain ⟨fnFilter, hf⟩ := Option.isSome_iff_exists.mp hfilter
      have hrun : s.prvFilter pxItem q = .ok (q.toQueue.fnFilter (bufferOf s.w pxItem.pxBuf)) := by
        rw [prvFilter, hf, QueueBlock.toQueue, hf]
        rfl
      have hblock : ∀ b ∈ c, ∃ p, s.queueAt b = some p := fun b hb => (h.block b (hc b hb)).imp fun _ h => h.1
      rw [List.forIn_cons, prvChoose_eq hq hblock, hrun, filterMap_value_cons hq]
      by_cases hadmits :
          (q.toQueue.fnFilter (bufferOf s.w pxItem.pxBuf) && prvMatchQueuePolicy pxItem q.toQueue) = true
      · have hbetter : ∀ b ∈ better s a q c, b ∈ live := fun b hb => (mem_better hb).elim (· ▸ ha) (hc b)
        obtain ⟨c', hloop, hlive, hvalue⟩ := ih (fun b hb => hl b (List.mem_cons_of_mem a hb)) hbetter
        refine ⟨c', ?_, hlive, ?_⟩
        · rw [Except.map, if_pos hadmits]
          exact hloop
        · rw [hvalue, better_value hq hblock]
          cases c.bind s.value with
          | none => rw [prvChooseQueue, if_pos hadmits]
          | some p => rw [prvChooseQueue, if_pos hadmits]
      · obtain ⟨c', hloop, hlive, hvalue⟩ := ih (fun b hb => hl b (List.mem_cons_of_mem a hb)) hc
        refine ⟨c', ?_, hlive, ?_⟩
        · rw [Except.map, if_neg hadmits]
          exact hloop
        · rw [hvalue]
          cases c.bind s.value with
          | none => rw [prvChooseQueue, if_neg hadmits]
          | some p => rw [prvChooseQueue, if_neg hadmits]

/-- The insertion by filter is the one into the list of values. -/
theorem insertByFilter_value (hlisted : Listed live items s) (h : Alive live s) (hagrees : Agrees live s)
    (uxTimeout : Nat) :
    (xNetworkQueueInsertPacketByFilter cfg pxItem uxTimeout).run s =
      (onWorld (exec cfg (Scheduler.xNetworkQueueInsertPacketByFilter cfg pxItem uxTimeout))).run s := by
  obtain ⟨c, hloop, hlive, hvalue⟩ := prvChoose_value h (fun _ ha => ha) (c := none) fun _ hb => nomatch hb
  rw [Option.bind_none] at hvalue
  rw [xNetworkQueueInsertPacketByFilter, EStateM.run_bind, run_prvEachQueue hlisted, hloop, run_onWorld, exec_insert,
    hagrees, ← hvalue]
  cases c with
  | none => rfl
  | some c =>
      obtain ⟨q, hq, hload, -⟩ := h.loadQueue (hlive c rfl)
      rw [Option.bind_some, value_eq hq]
      dsimp only
      rw [xNetworkQueuePush, run_bind_ok (run_reads_ok hload)]
      rfl

/-- The loop for the priority is the one over the list of values. -/
theorem prvPriority_value (cfg : Config) (h : Alive live s) {l : List Addr} (hl : ∀ a ∈ l, a ∈ live) (uxPriority : Nat) :
    ∃ p, forIn l uxPriority (prvPriority s) = .ok p ∧
      (exec cfg (prvMaxPriority uxPriority (l.filterMap s.value))).run s.w = .ok p s.w := by
  induction l generalizing uxPriority with
  | nil => exact ⟨uxPriority, rfl, rfl⟩
  | cons a l ih =>
      obtain ⟨q, hq, -⟩ := h.loadQueue (hl a List.mem_cons_self)
      obtain ⟨p, hloop, hrun⟩ := ih (fun b hb => hl b (List.mem_cons_of_mem a hb)) (raised s q uxPriority)
      refine ⟨p, ?_, ?_⟩
      · rw [List.forIn_cons, prvPriority_eq hq]
        exact hloop
      · rw [filterMap_value_cons hq]
        simp only [prvMaxPriority, xNetworkQueueIsEmpty, call_eq, Prog.call_bind, Prog.ret_bind, Prog.pure_eq, exec_call,
          effect_uxQueueMessagesWaiting]
        rw [← hrun, raised]
        cases hempty : s.w.queues q.xQueue with
        | nil => simp [QueueBlock.toQueue, hempty]
        | cons item rest => simp [QueueBlock.toQueue, hempty]

theorem computePriority_value (hlisted : Listed live items s) (h : Alive live s) (hagrees : Agrees live s) :
    (vTSNControllerComputePriority cfg).run s =
      (onWorld (exec cfg (Scheduler.vTSNControllerComputePriority cfg))).run s := by
  obtain ⟨p, hloop, hrun⟩ := prvPriority_value cfg h (fun _ ha => ha) (controllerTsnTaskBasePrio cfg)
  rw [vTSNControllerComputePriority, EStateM.run_bind, run_prvEachQueue hlisted, hloop, run_onWorld,
    Scheduler.vTSNControllerComputePriority]
  simp only [call_eq, Prog.call_bind, Prog.ret_bind, exec_call, effect_loadQueueList]
  rw [hagrees, exec_bind, hrun]
  rfl

end FreeRtosTsn.Scheduler.Registry
