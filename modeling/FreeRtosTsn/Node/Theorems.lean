import FreeRtosTsn.Node.Lemmas.Serving
import FreeRtosTsn.Scheduler.Theorems

/-!
# Main results of the node

What holds of the scheduler with any code for the items holds with the code that sends and delivers them.
-/

namespace FreeRtosTsn.Node

open Lib Kernel Packet Scheduler

/-- **Refinement**: a run of the controller that really sends and delivers is a run of the controller whose service may
change anything but the scheduler. -/
theorem node_refines {cfg : Config} {root : NetworkNode} {s₀ : System} {c : P ControllerLoop × Service}
    (h : NodeReachable cfg root s₀ c) : ServiceReachable cfg root s₀ c := by
  have hstep : ∀ o S r S', (nodeSem cfg).step o S r S' → (serviceSem cfg).step o S r S' := by
    rintro o S r S' ⟨⟨w', hw, hs⟩, hl⟩
    exact ⟨⟨w', NodeActs.acts hw, hs⟩, hl⟩
  exact Loops.Reach.refines hstep (fun _ _ h => h) h

/-- `dynSystem` with frames that have an end-point. -/
def sendingSystem : System :=
  { dynSystem with w := { dynSystem.w with
      bufs := fun b => ⟨.eth b 0, 100, some 0, some 0, 0, 0, .ipv4 0⟩
      cap := fun _ => 100 } }

/-- A frame is inserted, popped and sent. -/
theorem node_refines_sent : ∃ p S, NodeReachable {} fifoRoot sendingSystem (p, S) ∧ S.sys.w.macFrames.length = 1 ∧
    ServiceReachable {} fifoRoot sendingSystem (p, S) := by
  have h₀ : NodeReachable {} fifoRoot sendingSystem (prvTSNController {} fifoRoot .outer, ⟨sendingSystem, {}⟩) := .refl
  have h₁ := h₀.task (.start (t := 0) (b := true) rfl (Or.inr ⟨[], 50, rfl⟩ : Inserts {} txItem _))
  have h₂ := (h₁.task (.call (t := 0) rfl rfl rfl)).task (.call (t := 0) rfl rfl rfl)
  have h₃ := h₂.task (.call (t := 0) rfl rfl rfl)
  have h₄ := (((h₃.call rfl).call rfl).call rfl).loop
  have h₅ := (h₄.call rfl).call rfl
  have h₆ := h₅.call (o := .serve frameQueue txItem) (r := ()) ⟨_, rfl, rfl⟩
  exact ⟨_, _, h₆, rfl, node_refines h₆⟩

end FreeRtosTsn.Node
