import FreeRtosTsn.Scheduler.Lemmas.Response
import FreeRtosTsn.Scheduler.Theorems.Overtaking

/-!
# Response

An item of a leaf that no scheduler holds back is popped after a bounded number of rounds, and in every fair run.
-/

namespace FreeRtosTsn.Scheduler

open Lib Kernel

variable {cfg : Config} {root : NetworkNode}

/-- **Response time**: as long as an item of a leaf that is not shaped waits, the controller has entered no more loop
bodies than there are items that the item waits for, and two more. -/
theorem response_bounded (hroot : root.WellFormed) {s₀ : System} (hs₀ : Starts s₀) {p₁ p₂ : P ControllerLoop}
    {S₁ S₂ : Service} (h₁ : ServiceReachable cfg root s₀ (p₁, S₁)) {n : Nat}
    (h₂ : RunsIn cfg root (p₁, S₁) n (p₂, S₂)) {q : QueueHandle}
    (hleaf : ∃ l ∈ root.leaves, l.cbs = none ∧ l.pxQueue.xQueue = q) (hwaits : StillWaits q S₁.ledger S₂.ledger) :
    n ≤ interference root.leaves q S₁ S₂ + 2 := by
  have hsince := h₁.since (q := q) hroot hs₀ h₂.reach
  have hserved := served_le (Q := leafQueues root.leaves) (h₁.inv hs₀) hsince.inv hsince.grows hwaits
    (hsince.once hwaits)
  have hpaced := h₁.paced hroot hs₀ h₂ hleaf hwaits
  omega

section Run

variable {c : P ControllerLoop × Service} {n : Nat} {S S' : Service}

theorem ServiceReachable.here {s₀ : System} (_ : ServiceReachable cfg root s₀ c) : RunsIn cfg root c 0 c := .refl

theorem RunsIn.call {o : Call} {k : Call.Res o → P ControllerLoop} {r : Call.Res o} {w' : World}
    (h : RunsIn cfg root c n (.call (σ := Calls) o k, S)) (hw : Acts cfg o S.sys.w r w') :
    RunsIn cfg root c n (k r, ⟨S.sys.called ⟨o, r⟩ w', S.ledger.receive o r⟩) :=
  Loops.ReachIn.call h ⟨⟨w', hw, rfl⟩, rfl⟩

/-- Serving an item may change nothing that the scheduler owns. -/
theorem RunsIn.serve {q : NetworkQueue} {i : NetworkQueueItem} {k : Unit → P ControllerLoop}
    (h : RunsIn cfg root c n (.call (σ := Calls) (.serve q i) k, S)) :
    RunsIn cfg root c n (k (), ⟨S.sys.called ⟨.serve q i, ()⟩ S.sys.w, S.ledger⟩) :=
  RunsIn.call h ⟨rfl, rfl, rfl, rfl, rfl⟩

theorem RunsIn.loop {l : ControllerLoop} (h : RunsIn cfg root c n (.ret l, S)) :
    RunsIn cfg root c (n + 1) (prvTSNController cfg root l, (serviceLoops cfg root).enter l S) :=
  Loops.ReachIn.loop h

theorem RunsIn.task {p : P ControllerLoop} (h : RunsIn cfg root c n (p, S)) (ht : InsertStep cfg S S') :
    RunsIn cfg root c n (p, S') := Loops.ReachIn.env h ht

end Run

/-- The slow queue has accepted an item, and the controller is about to sleep. -/
theorem slow_waits : ∃ S, ServiceReachable {} prioRoot dynSystem (prvTSNController {} prioRoot .outer, S) ∧
    StillWaits 0 S.ledger S.ledger ∧ S.ledger.accepted 1 = [] := by
  have h₀ : ServiceReachable {} prioRoot dynSystem (prvTSNController {} prioRoot .outer, ⟨dynSystem, {}⟩) := .refl
  have h₁ := h₀.task (.start (t := 0) (b := true) rfl (Or.inr ⟨[], 50, rfl⟩ : Inserts {} txItem _))
  exact ⟨_, (h₁.task (.call (t := 0) rfl rfl rfl)).task (.call (t := 0) rfl rfl rfl), Nat.zero_lt_one, rfl⟩

/-- Then an item arrives at the fast queue, and the first round serves it. -/
theorem fast_served : ∃ p₁ S₁ p₂ S₂, ServiceReachable {} prioRoot dynSystem (p₁, S₁) ∧
    RunsIn {} prioRoot (p₁, S₁) 2 (p₂, S₂) ∧ StillWaits 0 S₁.ledger S₂.ledger ∧ S₂.ledger.popped 1 = [txItem] := by
  have h₀ : ServiceReachable {} prioRoot dynSystem (prvTSNController {} prioRoot .outer, ⟨dynSystem, {}⟩) := .refl
  have h₁ := h₀.task (.start (t := 0) (b := true) rfl (Or.inr ⟨[], 50, rfl⟩ : Inserts {} txItem _))
  have h₂ := (h₁.task (.call (t := 0) rfl rfl rfl)).task (.call (t := 0) rfl rfl rfl)
  have r₀ := (h₂.here.task (.start (t := 1) (b := true) rfl (Or.inl ⟨50, rfl⟩ : Inserts {} txItem _))).task
    (.call (t := 1) rfl rfl rfl)
  have r₁ := (r₀.task (.call (t := 1) rfl rfl rfl)).task (.call (t := 1) rfl rfl rfl)
  have r₂ := (((r₁.call rfl).call rfl).call rfl).loop
  have r₃ := ((r₂.call rfl).call rfl).serve.loop
  exact ⟨_, _, _, _, h₂, r₃, Nat.zero_lt_one, rfl⟩

theorem response_bounded_slow : ∃ p₁ S₁ p₂ S₂, RunsIn {} prioRoot (p₁, S₁) 2 (p₂, S₂) ∧
    S₂.ledger.popped 1 = [txItem] ∧ 2 ≤ interference prioRoot.leaves 0 S₁ S₂ + 2 := by
  obtain ⟨p₁, S₁, p₂, S₂, h₁, h₂, hwaits, hfast⟩ := fast_served
  exact ⟨p₁, S₁, p₂, S₂, h₂, hfast, response_bounded prioRoot_wellFormed dynSystem_starts.toStarts h₁ h₂
    ⟨⟨none, slowQueue⟩, by simp [prioRoot, NetworkNode.leaves, leavesList, ReadyQueueFunction.cbs], rfl, rfl⟩ hwaits⟩

/-- **Liveness**: in a run where the controller is scheduled again and again, and the queues ahead accept finitely many
items, every item that the leaf had accepted is popped. -/
theorem eventually_popped (hroot : root.WellFormed) {s₀ : System} (hs₀ : Starts s₀)
    {f : Nat → P ControllerLoop × Service} (h₀ : ServiceReachable cfg root s₀ (f 0))
    (hf : (serviceLoops cfg root).FairRun (serviceSem cfg) f) {q : QueueHandle}
    (hleaf : ∃ l ∈ root.leaves, l.cbs = none ∧ l.pxQueue.xQueue = q)
    (hfinite : ∃ N, ∀ i, ∀ q' ∈ queuesAhead root.leaves q, ((f i).2.ledger.accepted q').length ≤ N) :
    ∃ i, ¬StillWaits q (f 0).2.ledger (f i).2.ledger := by
  by_contra hnever
  push Not at hnever
  obtain ⟨N, hN⟩ := hfinite
  -- So many rounds that the bound is passed.
  obtain ⟨j, hj⟩ := hf.rounds (((f 0).2.sys.w.queues q).length +
    ∑ q' ∈ queuesAhead root.leaves q, (((f 0).2.sys.w.queues q').length + N) + 3)
  have hsince := h₀.since (q := q) hroot hs₀ hj.reach
  have hserved := served_le (Q := leafQueues root.leaves) (h₀.inv hs₀) hsince.inv hsince.grows (hnever j)
    (hsince.once (hnever j))
  have hpaced := h₀.paced hroot hs₀ hj hleaf (hnever j)
  have hle := interference_le (S := (f 0).2) (hN j)
  omega

theorem Moves.accepted {c c' : P ControllerLoop × Service}
    (h : (serviceLoops cfg root).Moves (serviceSem cfg) c c') : c'.2.ledger.accepted = c.2.ledger.accepted := by
  cases h with
  | @call o k S S' r hs => rw [hs.2, Ledger.receive_accepted]
  | loop => rfl

/-- Only the controller runs, forever. -/
theorem eventually_popped_slow : ∃ f : Nat → P ControllerLoop × Service,
    StillWaits 0 (f 0).2.ledger (f 0).2.ledger ∧ ∃ i, ¬StillWaits 0 (f 0).2.ledger (f i).2.ledger := by
  obtain ⟨S, hS, hwaits, hnone⟩ := slow_waits
  have hcbs : ∀ l ∈ prioRoot.leaves, l.cbs = none := by
    simp [prioRoot, NetworkNode.leaves, leavesList, ReadyQueueFunction.cbs]
  have hmoves : ∀ c, ServiceReachable {} prioRoot dynSystem c →
      ∃ c', (serviceLoops {} prioRoot).Moves (serviceSem {}) c c' ∧ ServiceReachable {} prioRoot dynSystem c' := by
    intro c hc
    obtain ⟨c', hc'⟩ := controller_moves prioRoot_wellFormed hcbs hc
    exact ⟨c', hc', hc.tail hc'.step⟩
  obtain ⟨f, hf₀, hf, hstep⟩ := Loops.Moves.fairRun hmoves hS
  have haccepted : ∀ i, (f i).2.ledger.accepted = S.ledger.accepted := by
    intro i
    induction i with
    | zero => rw [hf₀]
    | succ i ih => rw [Moves.accepted (hstep i).1, ih]
  refine ⟨f, hf₀ ▸ hwaits, eventually_popped prioRoot_wellFormed dynSystem_starts.toStarts (hf₀ ▸ hS) hf
    ⟨⟨none, slowQueue⟩, by simp [prioRoot, NetworkNode.leaves, leavesList, ReadyQueueFunction.cbs], rfl, rfl⟩
    ⟨0, fun i q' hq' => ?_⟩⟩
  obtain rfl : q' = 1 := by simpa using (show q' ∈ ({1} : Finset QueueHandle) from hq')
  simp [haccepted, hnone]

end FreeRtosTsn.Scheduler
