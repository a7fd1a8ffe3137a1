import FreeRtosTsn.Blocking.Lemmas

/-!
# Main result of the receive that waits
-/

namespace FreeRtosTsn.Blocking

open Lib Kernel Packet Scheduler Node

/-- **Blocking receive**: the task is never blocked on a packet unless the controller is about to tell it; it takes a
packet only from a list that has one; and it returns what one atomic receive returns, or that there is no packet when
its list was empty and its time, if it has any, is over, or that its arguments are not valid when they are not. -/
theorem recvmsg_waits {R : Receiver} {cfg : Config} {s₀ s : RecvState} (hs₀ : s₀.Starts)
    {p : Prog RecvCalls RecvLoop} (hs : RecvReachable R cfg s₀ (p, s)) : RecvSound R p s := by
  have hstart : wp (recvSem R cfg) (RecvPre R) (prvRecvmsg R .call) (LoopOk R) s₀ :=
    prvRecvmsg_call_wp ⟨hs₀.xWaiter, hs₀.taken⟩
  exact .of_wp (Loops.Reach.wp (fun l _ h => prvRecvmsg_wp l h) hs hstart)

/-- A socket that is bound to port 80, and a packet for it that was popped. -/
def emptyWorld : World :=
  { World.boot {} with
    calls := 3
    bufs := fun _ => ⟨.eth 0 0, 60, some 0, some 0, 0, 80, .ipv4 0⟩
    cap := fun _ => 60
    heap := fun a =>
      match a with
      | 0 => some (.tsnSocket ⟨0, 0, 0, 0, 0, 0, 0⟩)
      | 1 => some (.msghdr { msgIov := some 2, msgIovlen := 1 })
      | 2 => some (.iovec [⟨.eth 0 0, 60⟩])
      | _ => none
    baseSockets := fun _ => some ⟨true, 80, [], false, 10, 0, none⟩
    xTSNBoundUDPSocketList := [(80, 0)] }

def rxItem : NetworkQueueItem := ⟨.eNetworkRxEvent, some 0, some 1, true⟩

def rxQueue : NetworkQueue := ⟨0, 0, .eSendRecv, [], prvAlwaysTrue⟩

def receiver : Receiver := ⟨0, 0, some ⟨none, 0, none, 0, none, 0, 0⟩, 0⟩

/-- The call begins, on a socket that is bound and has no packet. -/
def emptyState : RecvState := ⟨emptyWorld, false, false, none, false, (0, 0), false, 0, none⟩

/-- The task blocks for ten ticks, and the controller delivers the packet. -/
theorem recvmsg_waits_delivered :
    ∃ s₁ s₂ k r, RecvReachable receiver {} emptyState (.call (σ := RecvCalls) .blocked k, s₁) ∧
      s₁.xWaiter = some (some 10) ∧ RecvReachable receiver {} emptyState (.ret (.returned r), s₂) ∧
      r.1 = 0 ∧ RecvSound receiver (.ret (.returned r)) s₂ := by
  have h₀ : RecvReachable receiver {} emptyState (prvRecvmsg receiver .call, _) := .refl
  have h₁ := ((h₀.tail (.call (.loadBaseSocket rfl))).tail .loop).tail (.call .vTaskSetTimeOutState)
  have h₂ := h₁.tail (.call (.noBits rfl))
  have h₃ := (h₂.tail (.env (.serve rfl (⟨_, rfl, rfl⟩ : Served {} rxQueue rxItem _ _)))).tail
    (.env (.xEventGroupSetBits rfl))
  have h₄ := ((h₃.tail (.call (.woken rfl))).tail (.call .listCurrentListLength)).tail (.call (.receive rfl))
  exact ⟨_, _, _, _, h₂, rfl, h₄, rfl, recvmsg_waits ⟨rfl, rfl⟩ h₄⟩

end FreeRtosTsn.Blocking
