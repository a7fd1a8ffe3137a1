import FreeRtosTsn.Scheduler.Round
import Mathlib.Data.List.Nodup

/-!
# A round ends at its first stop
-/

namespace FreeRtosTsn.Scheduler

open Lib Kernel

variable {cfg : Config}

/-- How a round ends at a stop that is not skipped. -/
def Stop.ends (cfg : Config) (s : Stop) (w : World) : EStateM.Result Fault World (Option NetworkQueue) :=
  match s.cbs with
  | none => .ok s.pxQueue w
  | some c =>
      match nextPacket w s.pxQueue with
      | none => .error .null w
      | some b => if c.uxBandwidth = 0 then .error .divZero w else .ok s.pxQueue (charged cfg c b w)

/-- A stop that is not skipped yields its queue or ends in a fault. -/
theorem Stop.ends_cases (cfg : Config) {s : Stop} {w : World} (h : s.skipped w = false) :
    (∃ q w', s.pxQueue = some q ∧ s.ends cfg w = .ok (some q) w') ∨ ∃ e w', s.ends cfg w = .error e w' := by
  obtain ⟨cbs, pxQueue⟩ := s
  cases pxQueue with
  | none =>
      cases cbs with
      | none => simp [Stop.skipped] at h
      | some c => exact .inr ⟨_, _, rfl⟩
  | some q =>
      cases cbs with
      | none => exact .inl ⟨q, w, rfl, rfl⟩
      | some c =>
          simp only [Stop.ends]
          cases nextPacket w (some q) with
          | none => exact .inr ⟨_, _, rfl⟩
          | some b =>
              by_cases hB : c.uxBandwidth = 0
              · exact .inr ⟨_, _, if_pos hB⟩
              · exact .inl ⟨q, _, rfl, if_neg hB⟩

/-- A round ends at its first stop, and before it only adds wakeup events. -/
def EndsAt (cfg : Config) (p : P (Option NetworkQueue)) (ss : List Stop) (w : World) : Prop :=
  ∃ w', SameLeaves w w' ∧ (exec cfg p).run w =
    match firstStop w ss with
    | none => .ok none w'
    | some s => s.ends cfg w'

theorem SameLeaves.firstStop {w w' : World} (h : SameLeaves w w') (ss : List Stop) :
    firstStop w' ss = firstStop w ss := by
  have hskipped : ∀ s : Stop, s.skipped w' = s.skipped w := fun s => by
    rw [Stop.skipped, Stop.skipped, h.queues, h.uxNextActivation, h.xTickCount]
  simp only [Scheduler.firstStop, hskipped]

theorem woken_sameLeaves (uxTime : Nat) (w : World) : SameLeaves w (woken uxTime w) := ⟨rfl, rfl, rfl⟩

theorem firstStop_singleton (w : World) (s : Stop) : firstStop w [s] = if s.skipped w then none else some s := by
  cases hs : s.skipped w <;> simp [firstStop, hs]

theorem firstStop_append (w : World) (ss ss' : List Stop) :
    firstStop w (ss ++ ss') = (firstStop w ss).or (firstStop w ss') := List.find?_append

theorem firstStop_not_skipped {w : World} {ss : List Stop} {s : Stop} (h : firstStop w ss = some s) :
    s.skipped w = false := by
  simpa using List.find?_some h

/-- The ready function of a credit based scheduler skips the stop, or ends the round for want of a packet. -/
theorem run_ready_cbs {c : SchedulerCBS} (pxQueue : Option NetworkQueue) (w : World) :
    (exec cfg (prvCBSReady cfg c pxQueue)).run w =
      if Stop.skipped w ⟨some c, pxQueue⟩ then .ok false (woken (w.uxNextActivation c.id) w)
      else match nextPacket w pxQueue with
        | none => .error .null w
        | some b => if c.uxBandwidth = 0 then .error .divZero w else .ok true (charged cfg c b w) := by
  rw [run_prvCBSReady, Stop.skipped]
  by_cases hle : w.uxNextActivation c.id ≤ wrap32 w.xTickCount
  · have hskip : ¬decide (wrap32 w.xTickCount < w.uxNextActivation c.id) = true := by simpa using hle
    exact (if_pos hle).trans (if_neg hskip).symm
  · rw [if_neg hle, if_pos (by simpa using hle)]

theorem terminal_endsAt (n : Nat) (g : SchedulerGeneric) (q : NetworkQueue) (next : List NetworkNode) (w : World) :
    EndsAt cfg (pxNetworkSchedulerCall cfg (.mk n g (some q) next)) [⟨g.fnReady.cbs, some q⟩] w := by
  rw [EndsAt, firstStop_singleton, pxNetworkSchedulerCall, netschedCallReadyFromNode]
  cases g.fnReady with
  | prvAlwaysReady =>
      refine ⟨w, SameLeaves.refl w, ?_⟩
      simp only [Prog.pure_eq, Prog.ret_bind, ↓reduceIte, prvCallTerminal_run, Stop.skipped, ReadyQueueFunction.cbs,
        Option.elim]
      by_cases hq : (w.queues q.xQueue).isEmpty = true
      · simp [hq]
      · simp [hq, Stop.ends]
  | prvCBSReady c =>
      simp only [exec_bind, run_ready_cbs, ReadyQueueFunction.cbs]
      by_cases hs : Stop.skipped w ⟨some c, some q⟩ = true
      · simp only [hs, ↓reduceIte]
        exact ⟨_, woken_sameLeaves _ w, rfl⟩
      · simp only [hs, Bool.false_eq_true, ↓reduceIte, Stop.ends]
        refine ⟨w, SameLeaves.refl w, ?_⟩
        cases hb : nextPacket w (some q) with
        | none => rfl
        | some b =>
            obtain ⟨_, _, _, ⟨⟩, hq, -⟩ := nextPacket_eq_some hb
            by_cases hB : c.uxBandwidth = 0
            · simp [hB]
            · simp [hB, prvCallTerminal_run, charged, hq]

/-- A credit based scheduler with a child has no packet, so its round never gets to the child. -/
theorem inner_endsAt (n : Nat) {g : SchedulerGeneric} {c : SchedulerCBS} (hg : g.fnReady = .prvCBSReady c)
    (next : List NetworkNode) (w : World) :
    EndsAt cfg (pxNetworkSchedulerCall cfg (.mk n g none next)) [⟨some c, none⟩] w := by
  rw [EndsAt, firstStop_singleton, pxNetworkSchedulerCall, netschedCallReadyFromNode, hg]
  simp only [exec_bind, run_ready_cbs]
  by_cases hs : Stop.skipped w ⟨some c, none⟩ = true
  · simp only [hs, ↓reduceIte]
    exact ⟨_, woken_sameLeaves _ w, rfl⟩
  · simp only [hs, Bool.false_eq_true, ↓reduceIte]
    exact ⟨w, SameLeaves.refl w, rfl⟩

mutual
theorem pxNetworkSchedulerCall_endsAt : (n : NetworkNode) → n.Linked → (w : World) →
    EndsAt cfg (pxNetworkSchedulerCall cfg n) n.stops w
  | .null, hn, _ => hn.elim
  | .mk n g (some q) next, _, w => terminal_endsAt n g q next w
  | .mk n g none next, hn, w => by
      obtain ⟨hlen, hfirst, hnext⟩ := hn
      rw [NetworkNode.stops]
      cases hr : g.fnReady with
      | prvCBSReady c => exact inner_endsAt n hr next w
      | prvAlwaysReady =>
          simp only [ReadyQueueFunction.cbs, pxNetworkSchedulerCall, netschedCallReadyFromNode, hr, Prog.pure_eq,
            Prog.ret_bind, ↓reduceIte]
          cases hsel : g.fnSelect with
          | prvPrioritySelect => exact prvPrioritySelect_endsAt n next hlen hnext w
          | prvSelectFirst => exact prvSelectFirst_endsAt next (hfirst hsel) hnext w

theorem prvSelectFirst_endsAt : (ns : List NetworkNode) → ns.length = 1 → LinkedList ns → (w : World) →
    EndsAt cfg (prvSelectFirst cfg ns) (stopsList ns) w
  | [], hl, _, _ => by simp at hl
  | child :: ns, hl, hn, w => by
      obtain rfl : ns = [] := by simpa using hl
      simp only [stopsList, List.append_nil, prvSelectFirst]
      exact pxNetworkSchedulerCall_endsAt child hn.1 w

theorem prvPrioritySelect_endsAt : (n : Nat) → (ns : List NetworkNode) → n = ns.length → LinkedList ns →
    (w : World) → EndsAt cfg (prvPrioritySelect cfg n ns) (stopsList ns) w
  | 0, [], _, _, w => ⟨w, SameLeaves.refl w, rfl⟩
  | n + 1, child :: ns, hl, hn, w => by
      obtain ⟨w₁, hsame, hrun⟩ := pxNetworkSchedulerCall_endsAt child hn.1 w
      simp only [EndsAt, prvPrioritySelect, exec_bind, hrun, stopsList, firstStop_append]
      cases hf : firstStop w child.stops with
      | some s =>
          refine ⟨w₁, hsame, ?_⟩
          have hskipped : s.skipped w₁ = false := firstStop_not_skipped ((hsame.firstStop _).trans hf)
          rcases Stop.ends_cases cfg hskipped with ⟨q, w', -, hends⟩ | ⟨e, w', hends⟩
          · simp [hends]
          · simp [hends]
      | none =>
          obtain ⟨w₂, hsame₂, hrun₂⟩ := prvPrioritySelect_endsAt n ns (by simpa using hl) hn.2 w₁
          rw [hsame.firstStop] at hrun₂
          exact ⟨w₂, hsame.trans hsame₂, by simpa using hrun₂⟩
end

/-! ## What the round charges -/

mutual
/-- A shaper that a round stops at with a queue has this queue as its subtree. -/
theorem mem_shapers_of_stop {c : SchedulerCBS} {q : NetworkQueue} :
    (n : NetworkNode) → ⟨some c, some q⟩ ∈ n.stops → (c, [q]) ∈ n.shapers
  | .null, h => by simp [NetworkNode.stops] at h
  | .mk _ g (some q') _, h => by
      simp only [NetworkNode.stops, List.mem_singleton, Stop.mk.injEq, Option.some.injEq] at h
      obtain ⟨hc, rfl⟩ := h
      simp [NetworkNode.shapers, ← hc]
  | .mk _ g none next, h => by
      rw [NetworkNode.stops] at h
      cases hr : g.fnReady with
      | prvCBSReady c' => simp [hr, ReadyQueueFunction.cbs] at h
      | prvAlwaysReady =>
          simp only [hr, ReadyQueueFunction.cbs] at h
          exact List.mem_append_right _ (mem_shapersList_of_stop next h)

theorem mem_shapersList_of_stop {c : SchedulerCBS} {q : NetworkQueue} :
    (ns : List NetworkNode) → ⟨some c, some q⟩ ∈ stopsList ns → (c, [q]) ∈ shapersList ns
  | [], h => by simp [stopsList] at h
  | n :: ns, h => by
      rw [stopsList, List.mem_append] at h
      rw [shapersList, List.mem_append]
      rcases h with h | h
      · exact .inl (mem_shapers_of_stop n h)
      · exact .inr (mem_shapersList_of_stop ns h)
end

theorem SameLeaves.nextPacket {w w' : World} (h : SameLeaves w w') (pxQueue : Option NetworkQueue) :
    nextPacket w' pxQueue = nextPacket w pxQueue := by
  simp only [Scheduler.nextPacket, h.queues]

theorem Stop.ends_misses {s : Stop} {w w' : World} (hsame : SameLeaves w w') (h : s.Misses w) :
    s.ends cfg w' = .error .null w' := by
  obtain ⟨hcbs, hnone⟩ := h
  obtain ⟨c, hc⟩ := Option.isSome_iff_exists.mp hcbs
  simp only [Stop.ends, hc, hsame.nextPacket, hnone]

/-- The shaper is charged for the packet at the head of its queue. -/
theorem charged_chargedFor {c : SchedulerCBS} {q : NetworkQueue} {b : BufId} {w w' : World} (hsame : SameLeaves w w')
    (hb : nextPacket w' (some q) = some b) : ChargedFor cfg c q w (charged cfg c b w') := by
  obtain ⟨_, xItem, is, ⟨⟩, hq, hbuf⟩ := nextPacket_eq_some hb
  refine ⟨xItem, b, { charged cfg c b w' with queues := Function.update w'.queues q.xQueue is }, ?_, hbuf, ?_⟩
  · simp [xNetworkQueuePop, charged, hq]
  · simp [charged, hsame.uxNextActivation, hsame.xTickCount]

/-- A round is safe as far as it ends at a stop that does not miss its packet. -/
theorem safeRound_of_hits {root : NetworkNode} (hroot : root.WellBuilt) {w : World}
    (h : ∀ s, firstStop w root.stops = some s → ¬ s.Misses w) : SafeRound cfg root w := by
  obtain ⟨w', hsame, hrun⟩ : EndsAt cfg (pxNetworkSchedulerCall cfg root) root.stops w :=
    pxNetworkSchedulerCall_endsAt root hroot.linked w
  rw [SafeRound, hrun]
  cases hf : firstStop w root.stops with
  | none => exact fun n _ hne => absurd (congrFun hsame.uxNextActivation _) hne
  | some s =>
      obtain ⟨cbs, pxQueue⟩ := s
      cases cbs with
      | none => exact fun n _ hne => absurd (congrFun hsame.uxNextActivation _) hne
      | some c =>
          cases hb : nextPacket w' pxQueue with
          | none => exact absurd ⟨rfl, (hsame.nextPacket _).symm.trans hb⟩ (h _ hf)
          | some b =>
              obtain ⟨q, _, _, rfl, -⟩ := nextPacket_eq_some hb
              by_cases hB : c.uxBandwidth = 0
              · simp only [Stop.ends, hb, hB, ↓reduceIte]
                exact ⟨by decide, by decide, hsame.uxNextActivation⟩
              · simp only [Stop.ends, hb, hB, ↓reduceIte]
                intro n hn hne
                have hid : n.1.id = c.id := by
                  by_contra hid
                  exact hne (by simp [charged, hid, hsame.uxNextActivation])
                -- No other shaper has this activation.
                have hmem : (c, [q]) ∈ root.shapers := mem_shapers_of_stop root (List.mem_of_find?_eq_some hf)
                obtain rfl : n = (c, [q]) := List.inj_on_of_nodup_map hroot.distinct hn hmem hid
                exact ⟨q, List.mem_singleton_self q, rfl, charged_chargedFor hsame hb⟩

end FreeRtosTsn.Scheduler
