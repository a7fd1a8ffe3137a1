import FreeRtosTsn.Scheduler.Lemmas.Overtaking
import FreeRtosTsn.Scheduler.Theorems

/-!
# Overtaking

An item waits behind one item at most of the leaves after its own.
-/

namespace FreeRtosTsn.Scheduler

open Lib Kernel

/-- **Overtaking**: from any moment of a run on, as long as an item that a queue had accepted by then has not been
popped, all the queues behind its leaves lose one item at most. -/
theorem overtaken_once {cfg : Config} {root : NetworkNode} (hroot : root.WellFormed) {s₀ : System} (hs₀ : Starts s₀)
    {p₁ p₂ : P ControllerLoop} {S₁ S₂ : Service} (h₁ : ServiceReachable cfg root s₀ (p₁, S₁))
    (h₂ : (serviceLoops cfg root).Reach (serviceSem cfg) (p₁, S₁) (p₂, S₂)) {q : QueueHandle}
    (hwaits : StillWaits q S₁.ledger S₂.ledger) : PoppedOnce (Behind root.leaves q) S₁.ledger S₂.ledger :=
  (h₁.since hroot hs₀ h₂).once hwaits

/-- `fastQueue` before `slowQueue`. -/
def prioRoot : NetworkNode :=
  .mk 2 { fnSelect := .prvPrioritySelect } none
    [.mk 1 {} (some fastQueue) [.null], .mk 1 {} (some slowQueue) [.null]]

theorem prioRoot_wellFormed : prioRoot.WellFormed := ⟨rfl, rfl, nofun, trivial, trivial, trivial⟩

theorem slow_behind : Behind prioRoot.leaves 1 0 := by
  intro bef l aft hls hl
  match bef, hls with
  | [], hls =>
      obtain ⟨rfl, -⟩ := List.cons.inj hls
      exact absurd hl (by decide)
  | l₀ :: bef, hls =>
      obtain ⟨rfl, -⟩ := List.cons.inj hls
      exact ⟨_, List.mem_cons_self, rfl, rfl⟩

theorem service_step {cfg : Config} {root : NetworkNode} {S : Service} {o : Call}
    {k : Call.Res o → P ControllerLoop} {r : Call.Res o} {w' : World} (hw : Acts cfg o S.sys.w r w') :
    (serviceLoops cfg root).Reach (serviceSem cfg) (.call (σ := Calls) o k, S)
      (k r, ⟨S.sys.called ⟨o, r⟩ w', S.ledger.receive o r⟩) := .single (.call ⟨⟨w', hw, rfl⟩, rfl⟩)

/-- The round has found the slow queue when an item arrives at the fast one, and still pops from the slow queue. -/
theorem late_arrival : ∃ p₁ S₁ p₂ S₂, ServiceReachable {} prioRoot dynSystem (p₁, S₁) ∧
    (serviceLoops {} prioRoot).Reach (serviceSem {}) (p₁, S₁) (p₂, S₂) ∧ StillWaits 1 S₁.ledger S₂.ledger ∧
    S₁.ledger.popped 0 = [] ∧ S₂.ledger.popped 0 = [txItem] := by
  have h₀ : ServiceReachable {} prioRoot dynSystem (prvTSNController {} prioRoot .outer, ⟨dynSystem, {}⟩) := .refl
  have h₁ := h₀.task (.start (t := 0) (b := true) rfl (Or.inr ⟨[], 50, rfl⟩ : Inserts {} txItem _))
  have h₂ := (h₁.task (.call (t := 0) rfl rfl rfl)).task (.call (t := 0) rfl rfl rfl)
  have h₃ := h₂.task (.call (t := 0) rfl rfl rfl)
  -- The round finds the fast queue empty.
  have h₄ := ((((h₃.call rfl).call rfl).call rfl).loop.call rfl).call rfl
  have h₅ := h₄.task (.start (t := 1) (b := true) rfl (Or.inl ⟨50, rfl⟩ : Inserts {} txItem _))
  have h₆ := (h₅.task (.call (t := 1) rfl rfl rfl)).task (.call (t := 1) rfl rfl rfl)
  have h₇ := h₆.task (.call (t := 1) rfl rfl rfl)
  exact ⟨_, _, _, _, h₇, service_step rfl, Nat.zero_lt_one, rfl, rfl⟩

theorem overtaken_once_late : Behind prioRoot.leaves 1 0 ∧ ∃ S₁ S₂ : Service, S₁.ledger.popped 0 = [] ∧
    S₂.ledger.popped 0 = [txItem] ∧ PoppedOnce (Behind prioRoot.leaves 1) S₁.ledger S₂.ledger := by
  obtain ⟨p₁, S₁, p₂, S₂, h₁, h₂, hwaits, hnone, hone⟩ := late_arrival
  exact ⟨slow_behind, S₁, S₂, hnone, hone, overtaken_once prioRoot_wellFormed dynSystem_starts.toStarts h₁ h₂ hwaits⟩

end FreeRtosTsn.Scheduler
