import FreeRtosTsn.Node.Lemmas.Conserve
import FreeRtosTsn.Scheduler.Theorems

/-!
# No buffer is lost or owned twice

Over whole runs of the node, with tasks, the driver and the controller in any order.
-/

namespace FreeRtosTsn.Node

open Lib Kernel Packet Scheduler

variable {cfg : Config} {s₀ s₁ s₂ : BufferState}

theorem BufferState.Ok.run (h : s₁.Ok) (hrun : Relation.ReflTransGen (BufferStep cfg) s₁ s₂) : s₂.Ok := by
  induction hrun with
  | refl => exact h
  | tail _ hstep ih => exact (hstep.conserves ih).ok ih

theorem BufferState.Ok.once_run (h : s₁.Ok) (hrun : Relation.ReflTransGen (BufferStep cfg) s₁ s₂) {b : BufId}
    (hb : Once (Place.count s₁ b)) : Once (Place.count s₂ b) := by
  induction hrun with
  | refl => exact hb
  | tail hrun hstep ih =>
      have hok := h.run hrun
      exact (hstep.conserves hok).once hok ih

/-- **Conservation of buffers**: in every state that is reached a buffer is in one place at most, once, and from when
it is in one it always is in exactly one. -/
theorem buffers_conserved (h₀ : s₀.Starts) (h₁ : Relation.ReflTransGen (BufferStep cfg) s₀ s₁)
    (h₂ : Relation.ReflTransGen (BufferStep cfg) s₁ s₂) (b : BufId) :
    OnceOrNever (Place.count s₁ b) ∧ (Once (Place.count s₁ b) → Once (Place.count s₂ b)) := by
  have hok := h₀.ok.run h₁
  exact ⟨hok.once b, fun hb => hok.once_run h₂ hb⟩

/-- A node with one queue, where nobody has a buffer. -/
def bufferBoot : BufferState := ⟨{ World.boot {} with pxNetworkQueueList := [frameQueue] }, [], [], none⟩

theorem bufferBoot_starts : bufferBoot.Starts where
  nowhere b p := by
    cases p with
    | stack p => cases p <;> rfl
    | _ => rfl
  serving := rfl
  queues _ := rfl
  baseSockets _ := rfl

/-- The same node after a task got a buffer. -/
def bufferHeld : BufferState :=
  ⟨lastState ((pxGetNetworkBufferWithDescriptor 100).run bufferBoot.w), [0], [], none⟩

/-- The task sends it, and it is queued. -/
theorem buffers_conserved_sent : ∃ s₂, Place.count bufferHeld 0 .held = 1 ∧ Place.count s₂ 0 (.queue 0) = 1 ∧
    OnceOrNever (Place.count bufferHeld 0) ∧ (Once (Place.count bufferHeld 0) → Once (Place.count s₂ 0)) := by
  have h₁ := Relation.ReflTransGen.single (@BufferStep.allocate {} bufferBoot 100 0 _ rfl)
  have h₂ := Relation.ReflTransGen.single (@BufferStep.output {} bufferHeld 0 0 true _ List.mem_cons_self rfl rfl)
  exact ⟨_, rfl, rfl, buffers_conserved bufferBoot_starts h₁ h₂ 0⟩

end FreeRtosTsn.Node
