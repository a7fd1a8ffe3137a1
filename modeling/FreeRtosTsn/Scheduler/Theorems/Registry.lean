import FreeRtosTsn.Scheduler.Lemmas.Lookup

/-!
# Main results on the registry of queues
-/

namespace FreeRtosTsn.Scheduler.Registry

open Lib Kernel

/-! ## Creating and freeing -/

/-- **The list of queues** holds the live ones, and loops over it touch no others, as long as none is freed. -/
theorem registry_ok_iff {cfg : Config} {calls : List RegistryCall} {live : List Addr} {s : Registry}
    (h : RegistryRun cfg calls live s) : RegistryOk cfg live s ↔ ∀ a, .free a ∉ calls := by
  obtain ⟨created, items, hinv, hlen⟩ := h.inv
  have hcount : calls.countP RegistryCall.isFree = 0 ↔ ∀ a, .free a ∉ calls := by
    rw [List.countP_eq_zero]
    constructor
    · intro hno a ha
      exact hno _ ha rfl
    · rintro hno (x | a) hcall
      · exact Bool.noConfusion
      · exact absurd hcall (hno a)
  rw [← hcount]
  constructor
  · rintro ⟨⟨items', hwalk, hqueues, -⟩, -, -⟩
    obtain rfl := hwalk.unique hinv.listed.walk
    have hlive := congrArg List.length hqueues
    rw [List.length_map, List.length_map, hinv.listed.length_eq] at hlive
    omega
  · intro hzero
    obtain rfl := hinv.sublist.eq_of_length (by omega)
    exact ⟨⟨items, hinv.listed.walk, hinv.listed.queues, hinv.listed.uxNumQueues⟩, hinv.nodup,
      fun t e s' => traversal_harmless hinv.listed hinv.alive t⟩

/-- Two queues. -/
theorem registry_ok_two :
    ∃ s, RegistryRun {} [.create ⟨.eSendOnly, 1, none, none⟩, .create ⟨.eRecvOnly, 2, none, none⟩] [0, 3] s ∧
      RegistryOk {} [0, 3] s := by
  have hrun : RegistryRun {} [.create ⟨.eSendOnly, 1, none, none⟩, .create ⟨.eRecvOnly, 2, none, none⟩] [0, 3] _ :=
    .create (.create (.boot {}) rfl) rfl
  exact ⟨_, hrun, (registry_ok_iff hrun).mpr (by simp)⟩

/-- A queue is created and freed, and the priority of the controller is computed. -/
theorem registry_dangles : ¬∀ calls live s, RegistryRun {} calls live s → RegistryOk {} live s := by
  intro h
  have hrun : RegistryRun {} [.create ⟨.eSendOnly, 1, none, none⟩, .free 0] [] _ :=
    .free (.create (.boot {}) rfl) List.mem_cons_self rfl
  exact ((h _ _ _ hrun).touches .vTSNControllerComputePriority (.code .heap) _ rfl).1 rfl

/-! ## Names -/

/-- **A lookup by name** finds what was created by this name, as long as the names fit and there is memory. -/
theorem names_kept_iff {cfg : Config} {xs : List NewQueue} {live : List Addr} {s : Registry}
    (h : RegistryRun cfg (xs.map .create) live s) :
    NamesKept cfg xs live s ↔ (∀ x ∈ xs, x.Fits cfg) ∧ s.MemoryLeft := by
  obtain ⟨created, items, hinv, hlen⟩ := h.inv
  obtain ⟨hholds, hover⟩ := h.holds rfl
  rw [← hover]
  constructor
  · intro hkept
    exact ⟨hkept.inside, (creates_iff hinv.listed cfg).mp hkept.creates⟩
  · rintro ⟨hinside, hleft⟩
    have hcount : (xs.map RegistryCall.create).countP RegistryCall.isFree = 0 := by
      simp [List.countP_eq_zero, RegistryCall.isFree]
    obtain rfl := hinv.sublist.eq_of_length (by omega)
    have hfind := find_eq_earliest hholds (hover.mp hinside)
    refine ⟨hinside, fun pcName pxItem => ?_, fun pcName pxItem uxTimeout => ?_, (creates_iff hinv.listed cfg).mpr hleft⟩
    · rw [run_pxNetworkQueueFindByName hinv.listed hinv.alive, hfind]
    · rw [← hfind]
      exact run_xNetworkQueueInsertPacketByName hinv.listed hinv.alive cfg pxItem pcName.bytes uxTimeout

/-- Two queues of one name, for the two directions. -/
theorem names_kept_shared :
    ∃ s, RegistryRun {}
      ([⟨.eSendOnly, 1, some ⟨[97], by decide⟩, none⟩, ⟨.eRecvOnly, 2, some ⟨[97], by decide⟩, none⟩].map .create)
        [0, 3] s ∧
      NamesKept {} [⟨.eSendOnly, 1, some ⟨[97], by decide⟩, none⟩, ⟨.eRecvOnly, 2, some ⟨[97], by decide⟩, none⟩] [0, 3]
        s := by
  have hrun : RegistryRun {} _ [0, 3] _ :=
    .create (x := ⟨.eRecvOnly, 2, some ⟨[97], by decide⟩, none⟩)
      (.create (x := ⟨.eSendOnly, 1, some ⟨[97], by decide⟩, none⟩) (.boot {}) rfl) rfl
  exact ⟨_, hrun, (names_kept_iff hrun).mpr ⟨by decide, rfl, fun _ => rfl⟩⟩

/-- A name of 32 bytes is written with its terminator. -/
theorem name_overruns : ¬∀ xs live s, RegistryRun {} (xs.map .create) live s → NamesKept {} xs live s := by
  intro h
  have hrun : RegistryRun {} ([⟨.eSendRecv, 0, some ⟨List.replicate 32 97, by decide⟩, none⟩].map .create) [0] _ :=
    .create (.boot {}) rfl
  exact absurd (h _ _ _ hrun).inside (by decide)

end FreeRtosTsn.Scheduler.Registry
