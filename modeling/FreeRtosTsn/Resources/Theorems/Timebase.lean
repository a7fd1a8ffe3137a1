import FreeRtosTsn.Resources.Lemmas.Timebase

/-!
# The timebase is used only when it is installed
-/

namespace FreeRtosTsn.Resources

open Lib Kernel Packet

/-- **Timebase guard**: the packets of a run get to `fnGetTime` only while the timebase is enabled, and are handled
without a timestamp otherwise, exactly when no frame whose timestamp a socket asked for is sent without a timebase. -/
theorem timebase_guarded_iff {cfg : Config} {log : List (World × TimebaseAction)} {o : Option World}
    (hrun : TimebaseRun cfg log o) : (∀ p ∈ log, p.2.Guarded cfg p.1) ↔ ∀ p ∈ log, p.2.Fits cfg p.1 :=
  forall₂_congr fun p hp => p.2.guarded_iff (hrun.timebaseOk.1 p hp)

/-- The controller has a frame from port 80, which is bound to a TSN socket that asks for all software timestamps. -/
def senderWorld (w : World) : World :=
  { w with
    calls := 1
    bCallingFromController := true
    bufs := fun b => ⟨.eth b 0, 60, some 0, some 0, 0, swap16 80, .ipv4 0⟩
    heap := fun a =>
      if a = 0 then some (.tsnSocket ⟨0, 0, 0, 0, 0, 0, sofTimestampingTxSoftware + sofTimestampingRxSoftware⟩) else none
    baseSockets := fun _ => some ⟨true, swap16 80, [], false, 0, 0, none⟩
    xTSNBoundUDPSocketList := [(swap16 80, 0)] }

theorem senderWorld_timebaseOf (w : World) : Same timebaseOf w (senderWorld w) := rfl

def completeHandle : TimebaseHandle := ⟨some 1, some 2, some 3, some 4, some 5⟩

/-- A handle that is refused. -/
def handleWithoutStop : TimebaseHandle := { completeHandle with fnStop := none }

/-- The node after it booted and a handle was set. -/
def handleWorld (env : Env) (pxTimebase : TimebaseHandle) : World :=
  lastState ((xTimebaseHandleSet pxTimebase).run (World.boot env))

theorem handleWorld_run (cfg : Config) (env : Env) (pxTimebase : TimebaseHandle)
    (hset : ((TimebaseAction.handleSet pxTimebase).code cfg).run (World.boot env) = .ok () (handleWorld env pxTimebase)) :
    TimebaseRun cfg [(World.boot env, .handleSet pxTimebase)] (some (senderWorld (handleWorld env pxTimebase))) :=
  .other (.act (.boot env) hset) (senderWorld_timebaseOf _)

/-- With a complete handle the frame is sent and its timestamp acquired. -/
theorem timebase_guarded_installed :
    ∃ w, w = senderWorld (handleWorld {} completeHandle) ∧ (TimebaseAction.transmit 0 0 true).Guarded {} w ∧
      (lastState ((xTsnNetworkInterfaceOutput {} 0 0 true).run w)).errQueues 0 = [2] := by
  have hrun : ((TimebaseAction.transmit 0 0 true).code {}).run (senderWorld (handleWorld {} completeHandle)) =
      .ok () (lastState ((xTsnNetworkInterfaceOutput {} 0 0 true).run (senderWorld (handleWorld {} completeHandle)))) :=
    rfl
  have hlog := TimebaseRun.act (handleWorld_run {} {} completeHandle rfl) hrun
  refine ⟨_, rfl, (timebase_guarded_iff hlog).mpr ?_ _ (List.mem_append_right _ (List.mem_singleton_self _)), rfl⟩
  intro p hp
  rcases List.mem_append.mp hp with hp | hp
  · cases List.mem_singleton.mp hp
    trivial
  · cases List.mem_singleton.mp hp
    exact Or.inl rfl

/-- After a handle without `fnStop`, the frame gets to the null pointer in the place of `fnGetTime`. -/
theorem timebase_null_callback :
    TimebaseRun {}
      ([(World.boot {}, .handleSet handleWithoutStop)] ++
        [(senderWorld (handleWorld {} handleWithoutStop), .transmit 0 0 true)]) none ∧
      ¬(TimebaseAction.transmit 0 0 true).Guarded {} (senderWorld (handleWorld {} handleWithoutStop)) := by
  have hfault : ∃ w', ((TimebaseAction.transmit 0 0 true).code {}).run (senderWorld (handleWorld {} handleWithoutStop)) =
      .error .null w' := ⟨_, rfl⟩
  obtain ⟨w', hfault⟩ := hfault
  refine ⟨.fault (handleWorld_run {} {} handleWithoutStop rfl) hfault, ?_⟩
  have hsent : SentFor {} (senderWorld (handleWorld {} handleWithoutStop)) 0 0 0
      ⟨0, 0, 0, 0, 0, 0, sofTimestampingTxSoftware + sofTimestampingRxSoftware⟩ :=
    ⟨rfl, ⟨⟨0, 0, rfl⟩, fun _ _ => rfl, rfl⟩, rfl, rfl, rfl⟩
  exact transmit_not_guarded ⟨0, _, hsent, by decide, by decide⟩ (by decide) true

end FreeRtosTsn.Resources
