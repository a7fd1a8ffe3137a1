import FreeRtosTsn.Node.Theorems.Buffers
import FreeRtosTsn.Packet.Theorems

/-!
# Packets are received in order

Frames go from a network queue to the waiting list of a socket one at a time. So the socket hands them out in the
order in which the queue accepted them.
-/

namespace FreeRtosTsn.Node

open Lib Kernel Packet Scheduler Resources

variable {cfg : Config} {s s' s₀ s₁ s₂ s₃ : BufferState} {b c : BufId} {q : QueueHandle} {k : SockId}

theorem BufferState.Ok.separate (h : s.Ok) : Separate (Place.buffers s) :=
  .of_count fun b => by simpa only [← count_eq] using h.once b

theorem BufferStep.flows (hs : s.Ok) (h : BufferStep cfg s s') :
    Flows Place.IsLine Place.rank (Place.buffers s) (Place.buffers s') := by
  refine (h.conserves hs).move.flows hs.separate fun b hb p hp => ?_
  have hnone := hs.fresh b hb.1 p
  rw [count_eq] at hnone
  exact List.count_eq_zero.mp hnone hp

/-- How far two buffers of a queue have come, on the way to a socket. -/
theorem BufferState.Ok.inOrder (h : s₁.Ok) (hrun : Relation.ReflTransGen (BufferStep cfg) s₁ s₂) (hbc : b ≠ c)
    (hord : InOrder Place.rank (.queue q) (.stack (.waiting k)) b c (Place.buffers s₁)) :
    InOrder Place.rank (.queue q) (.stack (.waiting k)) b c (Place.buffers s₂) := by
  induction hrun with
  | refl => exact hord
  | tail hrun hstep ih =>
      have hok := h.run hrun
      exact ih.flows (hstep.flows hok) hok.separate trivial trivial rfl hbc

theorem BufferState.Ok.ahead (h : s₁.Ok) (hrun : Relation.ReflTransGen (BufferStep cfg) s₁ s₂)
    (ha : Ahead Place.rank (.stack (.waiting k)) b c (Place.buffers s₁)) :
    Ahead Place.rank (.stack (.waiting k)) b c (Place.buffers s₂) := by
  induction hrun with
  | refl => exact ha
  | tail hrun hstep ih =>
      have hok := h.run hrun
      exact ih.flows (hstep.flows hok) hok.separate trivial

/-- **Order**: when the later of two frames of a queue has come to a socket, then from that moment on the earlier one
is in no queue, and while it waits at the socket the later one waits behind it. -/
theorem received_in_order (h₀ : s₀.Starts) (h₁ : Relation.ReflTransGen (BufferStep cfg) s₀ s₁)
    (hbc : [b, c].Sublist (Place.buffers s₁ (.queue q))) (h₂ : Relation.ReflTransGen (BufferStep cfg) s₁ s₂)
    (hc : c ∈ waiting s₂.w k) (h₃ : Relation.ReflTransGen (BufferStep cfg) s₂ s₃) :
    (∀ j, b ∉ Place.buffers s₃ (.queue j)) ∧ (b ∈ waiting s₃.w k → [b, c].Sublist (waiting s₃.w k)) := by
  have hok₁ := h₀.ok.run h₁
  have hok₂ := hok₁.run h₂
  have hne : b ≠ c := by
    have hnodup := (hok₁.separate.nodup (.queue q)).sublist hbc
    simpa using hnodup
  have hord := hok₁.inOrder (k := k) h₂ hne (.both hbc)
  have hahead := hok₂.ahead h₃ (hord.ahead hok₂.separate (by simp) hc)
  exact ⟨fun j hj => absurd (hahead.beyond.rank_le (.queue j) hj) (by simp [Place.rank]), hahead.sublist⟩

/-- The driver got two buffers, and now has two frames for a socket that listens on port 80. -/
def arrivedFrames : World :=
  { bufferBoot.w with
    calls := 2
    heap := fun a => (oneSocket a).map .tsnSocket
    baseSockets := fun k => if k = 0 then some idleSocket else none
    xTSNBoundUDPSocketList := [(swap16 80, 0)]
    bufs := fun b => ⟨.eth b 0, 45, some 0, some 0, 0, 0, .ipv4 0⟩
    mem := fun _ => sentFrame }

def queuedFrame (cfg : Config) : World :=
  lastState ((xSendEventStructToTsnController cfg .eNetworkRxEvent 0 0).run arrivedFrames)

def queuedFrames (cfg : Config) : World :=
  lastState ((xSendEventStructToTsnController cfg .eNetworkRxEvent 1 0).run (queuedFrame cfg))

/-- The item is popped from `frameQueue`. -/
def poppedItem (rest : List NetworkQueueItem) (w : World) : World :=
  { w with queues := Function.update w.queues frameQueue.xQueue rest }

def servedItem (cfg : Config) (xItem : NetworkQueueItem) (rest : List NetworkQueueItem) (w : World) : World :=
  resumed (poppedItem rest w) (lastState ((prvServeItem cfg frameQueue xItem).run (asController (poppedItem rest w))))

def servedFrame (cfg : Config) : World := servedItem cfg (rxItem 0 (some 2)) [rxItem 1 (some 6)] (queuedFrames cfg)

def servedFrames (cfg : Config) : World := servedItem cfg (rxItem 1 (some 6)) [] (servedFrame cfg)

theorem arrivedFrames_reached :
    Relation.ReflTransGen (BufferStep cfg) bufferBoot ⟨arrivedFrames, [1, 0], [], none⟩ := by
  have h₁ := Relation.ReflTransGen.single (@BufferStep.allocate cfg bufferBoot 45 0 _ rfl)
  have h₂ := h₁.tail (@BufferStep.allocate cfg ⟨_, [0], [], none⟩ 45 1 _ rfl)
  refine h₂.tail (.other ⟨rfl, rfl, rfl, rfl, fun k => ?_, Nat.le_refl _, fun k hk _ => if_neg ?_⟩)
  · by_cases hk : k = 0 <;> simp [waiting, arrivedFrames, hk, idleSocket] <;> rfl
  · rintro rfl
    exact absurd hk (by decide)

theorem queuedFrames_reached
    (h₁ : valueOf ((xSendEventStructToTsnController cfg .eNetworkRxEvent 0 0).run arrivedFrames) = some true)
    (h₂ : valueOf ((xSendEventStructToTsnController cfg .eNetworkRxEvent 1 0).run (queuedFrame cfg)) = some true) :
    Relation.ReflTransGen (BufferStep cfg) bufferBoot ⟨queuedFrames cfg, [], [], none⟩ := by
  have hone := arrivedFrames_reached.tail (@BufferStep.receive cfg ⟨arrivedFrames, [1, 0], [], none⟩ .eNetworkRxEvent
    0 0 true (queuedFrame cfg) (List.mem_cons_of_mem _ List.mem_cons_self) (eq_ok_of_valueOf h₁))
  exact hone.tail (@BufferStep.receive cfg ⟨queuedFrame cfg, [1], [], none⟩ .eNetworkRxEvent
    1 0 true (queuedFrames cfg) List.mem_cons_self (eq_ok_of_valueOf h₂))

/-- An item is popped, and served without a fault. -/
theorem servedItem_reached {w : World} {xItem : NetworkQueueItem} {rest : List NetworkQueueItem}
    (hq : w.queues frameQueue.xQueue = xItem :: rest) (hforgot : forgotten (poppedItem rest w) xItem = [])
    (h : valueOf ((prvServeItem cfg frameQueue xItem).run (asController (poppedItem rest w))) = some ()) :
    Relation.ReflTransGen (BufferStep cfg) ⟨w, [], [], none⟩ ⟨servedItem cfg xItem rest w, [], [], none⟩ := by
  have hpop := Relation.ReflTransGen.single (@BufferStep.pop cfg ⟨w, [], [], none⟩ frameQueue xItem rest rfl hq)
  have hserve := @BufferStep.serve cfg ⟨poppedItem rest w, [], [], some (frameQueue, xItem)⟩ frameQueue xItem _ rfl
    ⟨_, eq_ok_of_valueOf h, rfl⟩
  simp only [hforgot, List.append_nil] at hserve
  exact hpop.tail hserve

/-- The two frames wait at the socket. -/
theorem received_in_order_both : waiting (servedFrames {}) 0 = [0, 1] ∧
    (∀ j, 0 ∉ Place.buffers ⟨servedFrames {}, [], [], none⟩ (.queue j)) ∧
    (0 ∈ waiting (servedFrames {}) 0 → [0, 1].Sublist (waiting (servedFrames {}) 0)) := by
  have h₁ := @queuedFrames_reached {} (by decide +kernel) (by decide +kernel)
  have h₂ := @servedItem_reached {} (queuedFrames {}) (rxItem 0 (some 2)) [rxItem 1 (some 6)] (by decide +kernel)
    (by decide +kernel) (by decide +kernel)
  have h₃ := @servedItem_reached {} (servedFrame {}) (rxItem 1 (some 6)) [] (by decide +kernel) (by decide +kernel)
    (by decide +kernel)
  have hqueued : [0, 1].Sublist (Place.buffers ⟨queuedFrames {}, [], [], none⟩ (.queue 0)) := by decide +kernel
  exact ⟨by decide +kernel, received_in_order bufferBoot_starts h₁ hqueued (h₂.trans h₃) (by decide +kernel) .refl⟩

end FreeRtosTsn.Node
