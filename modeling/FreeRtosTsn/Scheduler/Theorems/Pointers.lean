import FreeRtosTsn.Scheduler.Lemmas.Unfold

/-!
# Main result on the functions that build the tree
-/

namespace FreeRtosTsn.Scheduler.Pointers

open Lib Kernel Relation

/-- **Pointers**: whatever an application builds and releases by the rules, the traversal of the pointers is that of a
tree. When the nodes under the root are complete, the tree is linked and no two of its schedulers share an activation. -/
theorem setup_unfolds {cfg : Config} {s₀ s : Setup} (hs₀ : s₀.Starts) (h : ReflTransGen SetupStep s₀ s) :
    s.h.Unfolds cfg := by
  have hs := hs₀.wired.run h
  have hcall : ∀ uxStack pxNode, s.h.uxNodes < uxStack → s.h.Valid pxNode →
      Pointers.pxNetworkSchedulerCall cfg s.h uxStack pxNode =
        Scheduler.pxNetworkSchedulerCall cfg (s.h.tree s.h.uxNodes pxNode) :=
    fun uxStack pxNode hstack hvalid => hs.callsTree hvalid uxStack hstack
  refine ⟨hcall, ?_, ?_⟩
  · rintro ⟨root, hroot, hcomplete⟩ uxStack hstack
    have hlinked := hs.tree_linked (hs.root root hroot) hcomplete
    rw [Pointers.xNetworkQueueSchedule, Nodes.root, hroot]
    dsimp only
    rw [hcall uxStack (some root) hstack (hroot ▸ hs.root)]
    cases htree : s.h.tree s.h.uxNodes (some root) with
    | null =>
        rw [htree] at hlinked
        exact hlinked.elim
    | mk n g q next => rfl
  · rintro ⟨root, hroot, hcomplete⟩
    rw [Nodes.root, hroot]
    exact ⟨hs.tree_linked (hs.root root hroot) hcomplete, hs.tree_distinct _ root⟩

/-! ## The shaped part of the template -/

/-- A leaf that is not linked yet. -/
theorem Wired.allowed_link {s : Setup} (hs : Wired s) (a c uxPosition : Nat) (hne : c ≠ a)
    (hlive : (s.h.nodes c).isSome) (hnew : ∀ b < s.w.calls, some c ∉ s.h.slots b) (hleaf : s.h.slots c = [none]) :
    (NodeCall.xNetworkSchedulerLinkChild (some a) (some c) uxPosition).Allowed s.h := by
  refine ⟨hlive, ?_, fun hpath => ?_⟩
  · rintro b ⟨i, hi⟩
    obtain ⟨node, hnode⟩ := Option.isSome_iff_exists.mp hi.live
    exact hnew b (hs.lt_calls hnode) (List.mem_of_getElem? hi)
  · rcases hpath.cases_head with rfl | ⟨d, ⟨i, hi⟩, -⟩
    · exact hne rfl
    · have hmem := List.mem_of_getElem? hi
      simp [hleaf] at hmem

def sendQueue : NetworkQueue := ⟨0, 1, .eSendOnly, [], prvAlwaysTrue⟩

def recvQueue : NetworkQueue := ⟨1, 1, .eRecvOnly, [], prvAlwaysTrue⟩

def bootSetup : Setup := ⟨⟨fun _ => none, fun _ => none, none⟩, World.boot {}⟩

/-- `prio_cbs` of the template, as the root. -/
theorem setup_unfolds_shaped : ∃ s, ReflTransGen SetupStep bootSetup s ∧ s.h.AllComplete ∧ s.h.Unfolds {} := by
  have h₀ : ReflTransGen SetupStep bootSetup bootSetup := .refl
  have h₁ := h₀.tail (.call (.pxNetworkNodeCreateCBS 456 912) trivial rfl)
  have h₂ := h₁.tail (.call (.xNetworkSchedulerLinkQueue (some 0) (some sendQueue)) trivial rfl)
  have h₃ := h₂.tail (.call .pxNetworkNodeCreateFIFO trivial rfl)
  have h₄ := h₃.tail (.call (.xNetworkSchedulerLinkQueue (some 2) (some recvQueue)) trivial rfl)
  have h₅ := h₄.tail (.call (.pxNetworkNodeCreatePrio 2) (by decide : 2 < 256) rfl)
  have hboot : bootSetup.Starts := ⟨fun _ => rfl, fun _ => rfl, rfl⟩
  have hlink := (hboot.wired.run h₅).allowed_link 4 0 0 (by decide) rfl (by decide) rfl
  have h₆ := h₅.tail (.call (.xNetworkSchedulerLinkChild (some 4) (some 0) 0) hlink rfl)
  have hlink' := (hboot.wired.run h₆).allowed_link 4 2 1 (by decide) rfl (by decide) rfl
  have h₇ := h₆.tail (.call (.xNetworkSchedulerLinkChild (some 4) (some 2) 1) hlink' rfl)
  have h₈ := h₇.tail (.call (.xNetworkQueueAssignRoot (some 4)) rfl rfl)
  refine ⟨_, h₈, ⟨4, rfl, fun a ha => ?_⟩, setup_unfolds hboot h₈⟩
  have hnode : a = 4 ∨ a = 0 ∨ a = 2 := by
    induction ha with
    | refl => exact .inl rfl
    | tail _ hb ih =>
        rcases ih with rfl | rfl | rfl
        · exact .inr (by simpa using (show _ ∈ [0, 2] from hb))
        · cases (show _ ∈ [] from hb)
        · cases (show _ ∈ [] from hb)
  rcases hnode with rfl | rfl | rfl
  · exact ⟨_, _, rfl, fun _ => ⟨nofun, by decide⟩⟩
  · exact ⟨_, _, rfl, nofun⟩
  · exact ⟨_, _, rfl, nofun⟩

end FreeRtosTsn.Scheduler.Pointers
