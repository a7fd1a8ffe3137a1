import FreeRtosTsn.Packet.Lemmas.Heap
import FreeRtosTsn.Packet.Spec

/-!
# Messages

How the discipline of the heap is kept while messages are built, changed and freed.
-/

namespace FreeRtosTsn.Packet

open Lib Kernel

/-! ## Heaps of messages -/

theorem isPart_inj {p q : Part} {b : Block} (hp : isPart p b) (hq : isPart q b) : p = q := by
  cases p <;> cases q <;> cases b <;> simp [isPart] at hp hq ⊢

namespace MsgHeap

variable {heap : Addr → Option Block} {a x : Addr} {m m' : Msghdr} {b b' : Block} {p : Part}

/-- What a message names is no message. -/
theorem part_ne (h : MsgHeap heap) (ha : heap a = some (.msghdr m)) (hx : part m p = some x) :
    heap x ≠ some (.msghdr m') := by
  intro hm
  obtain ⟨b, hb, hp⟩ := h.live ha hx
  rw [hm] at hb
  cases hb
  cases p <;> exact nomatch hp

/-- A block that is no message, or a message that names nothing, in a free place. -/
theorem add (h : MsgHeap heap) (hx : heap x = none) (hb : ∀ m p, b = .msghdr m → part m p = none) :
    MsgHeap (Function.update heap x (some b)) where
  live := by
    intro a m p y ha hy
    by_cases hax : a = x
    · rw [hax, Function.update_self] at ha
      rw [hb m p (Option.some.inj ha)] at hy
      exact nomatch hy
    · rw [Function.update_of_ne hax] at ha
      obtain ⟨c, hc, hp⟩ := h.live ha hy
      have hyx : y ≠ x := by
        rintro rfl
        rw [hx] at hc
        exact nomatch hc
      exact ⟨c, by rw [Function.update_of_ne hyx]; exact hc, hp⟩
  owner := by
    intro a a' m m' p p' y ha ha' hy hy'
    by_cases hax : a = x
    · rw [hax, Function.update_self] at ha
      rw [hb m p (Option.some.inj ha)] at hy
      exact nomatch hy
    · by_cases hax' : a' = x
      · rw [hax', Function.update_self] at ha'
        rw [hb m' p' (Option.some.inj ha')] at hy'
        exact nomatch hy'
      · rw [Function.update_of_ne hax] at ha
        rw [Function.update_of_ne hax'] at ha'
        exact h.owner ha ha' hy hy'

theorem setPart (h : MsgHeap heap) (hx : heap x = some b) (hp : isPart p b) (hp' : isPart p b') :
    MsgHeap (Function.update heap x (some b')) := by
  have hb' : ∀ m, b' ≠ .msghdr m := by
    rintro m rfl
    cases p <;> exact nomatch hp'
  have hpart : ∀ q, isPart q b → isPart q b' := by
    intro q hq
    rw [← isPart_inj hp hq]
    exact hp'
  have hmsg : ∀ {a m}, Function.update heap x (some b') a = some (.msghdr m) → heap a = some (.msghdr m) := by
    intro a m ha
    by_cases hax : a = x
    · rw [hax, Function.update_self] at ha
      exact absurd (Option.some.inj ha) (hb' m)
    · rwa [Function.update_of_ne hax] at ha
  constructor
  · intro a m q y ha hy
    obtain ⟨c, hc, hq⟩ := h.live (hmsg ha) hy
    by_cases hyx : y = x
    · rw [hyx, hx] at hc
      cases hc
      exact ⟨b', by rw [hyx, Function.update_self], hpart q hq⟩
    · exact ⟨c, by rw [Function.update_of_ne hyx]; exact hc, hq⟩
  · intro a a' m m' q q' y ha ha' hy hy'
    exact h.owner (hmsg ha) (hmsg ha') hy hy'

/-- A message is changed; what it names now it named before, or nobody did. -/
theorem setMsghdr (h : MsgHeap heap) (ha : heap a = some (.msghdr m))
    (hm' : ∀ q y, part m' q = some y → part m q = some y ∨
      (∃ b, heap y = some b ∧ isPart q b) ∧ ∀ a' m₁ q', heap a' = some (.msghdr m₁) → part m₁ q' ≠ some y) :
    MsgHeap (Function.update heap a (some (.msghdr m'))) := by
  have hlive : ∀ {q y}, part m' q = some y → ∃ b, heap y = some b ∧ isPart q b := by
    intro q y hy
    rcases hm' q y hy with hy | ⟨hb, -⟩
    · exact h.live ha hy
    · exact hb
  have hown : ∀ {a' m₁ q q' y}, heap a' = some (.msghdr m₁) → part m' q = some y → part m₁ q' = some y → a' = a := by
    intro a' m₁ q q' y ha' hy hy'
    rcases hm' q y hy with hy | ⟨-, hn⟩
    · exact h.owner ha' ha hy' hy
    · exact absurd hy' (hn a' m₁ q' ha')
  have hother : ∀ {y c}, heap y = some c → ∀ q, isPart q c → Function.update heap a (some (.msghdr m')) y = some c := by
    intro y c hc q hq
    have hya : y ≠ a := by
      rintro rfl
      rw [ha] at hc
      cases hc
      cases q <;> exact nomatch hq
    rw [Function.update_of_ne hya]
    exact hc
  constructor
  · intro a₁ m₁ q y ha₁ hy
    by_cases haa : a₁ = a
    · rw [haa, Function.update_self] at ha₁
      cases ha₁
      obtain ⟨c, hc, hq⟩ := hlive hy
      exact ⟨c, hother hc q hq, hq⟩
    · rw [Function.update_of_ne haa] at ha₁
      obtain ⟨c, hc, hq⟩ := h.live ha₁ hy
      exact ⟨c, hother hc q hq, hq⟩
  · intro a₁ a₂ m₁ m₂ q q' y ha₁ ha₂ hy hy'
    by_cases haa : a₁ = a
    · by_cases haa₂ : a₂ = a
      · rw [haa, haa₂]
      · rw [haa, Function.update_self] at ha₁
        cases ha₁
        rw [Function.update_of_ne haa₂] at ha₂
        rw [haa, hown ha₂ hy hy']
    · rw [Function.update_of_ne haa] at ha₁
      by_cases haa₂ : a₂ = a
      · rw [haa₂, Function.update_self] at ha₂
        cases ha₂
        rw [haa₂, hown ha₁ hy' hy]
      · rw [Function.update_of_ne haa₂] at ha₂
        exact h.owner ha₁ ha₂ hy hy'

theorem remove (h : MsgHeap heap) (ha : heap a = some (.msghdr m)) {heap' : Addr → Option Block}
    (hdead : ∀ y, (y = a ∨ ∃ p, part m p = some y) → heap' y = none)
    (hkeep : ∀ y, y ≠ a → (∀ p, part m p ≠ some y) → heap' y = heap y) : MsgHeap heap' := by
  have hold : ∀ {y b}, heap' y = some b → y ≠ a ∧ heap y = some b := by
    intro y b hy
    have hn : ¬(y = a ∨ ∃ p, part m p = some y) := by
      intro hd
      rw [hdead y hd] at hy
      exact nomatch hy
    have hne : y ≠ a := fun h => hn (.inl h)
    rw [hkeep y hne fun p hp => hn (.inr ⟨p, hp⟩)] at hy
    exact ⟨hne, hy⟩
  constructor
  · intro a' m' q y ha' hy
    obtain ⟨hne, ha'⟩ := hold ha'
    obtain ⟨c, hc, hq⟩ := h.live ha' hy
    refine ⟨c, ?_, hq⟩
    rw [hkeep]
    · exact hc
    · rintro rfl
      exact h.part_ne ha' hy ha
    · intro p hp
      exact hne (h.owner ha' ha hy hp)
  · intro a₁ a₂ m₁ m₂ q q' y ha₁ ha₂ hy hy'
    exact h.owner (hold ha₁).2 (hold ha₂).2 hy hy'

end MsgHeap

/-! ## The heap of a node -/

namespace HeapOk

variable {w : World} {a x : Addr} {m m' : Msghdr} {b b' : Block} {p : Part}

theorem lt_calls (h : HeapOk w) (hx : w.heap x = some b) : x < w.calls := by
  by_contra hlt
  rw [h.fresh x (Nat.not_lt.mp hlt)] at hx
  exact nomatch hx

theorem tick (h : HeapOk w) : HeapOk w.tick where
  toMsgHeap := h.toMsgHeap
  fresh x hx := h.fresh x (Nat.le_of_succ_le hx)
  freed x hx := ⟨Nat.lt_succ_of_lt (h.freed x hx).1, (h.freed x hx).2⟩
  freedOnce := h.freedOnce

theorem alloc (h : HeapOk w) (hb : ∀ m p, b = .msghdr m → part m p = none) :
    HeapOk (w.tick.setBlock w.calls (some b)) where
  toMsgHeap := h.add (h.fresh _ (Nat.le_refl _)) hb
  fresh x hx := by
    rw [World.setBlock_heap, Function.update_of_ne (by rintro rfl; exact Nat.not_succ_le_self _ hx)]
    exact h.fresh x (Nat.le_of_succ_le hx)
  freed x hx := by
    have hlt := (h.freed x hx).1
    refine ⟨Nat.lt_succ_of_lt hlt, ?_⟩
    rw [World.setBlock_heap, Function.update_of_ne (Nat.ne_of_lt hlt)]
    exact (h.freed x hx).2
  freedOnce := h.freedOnce

theorem store (h : HeapOk w) (hx : w.heap x = some b) (hw : MsgHeap (Function.update w.heap x (some b'))) :
    HeapOk (w.setBlock x (some b')) where
  toMsgHeap := hw
  fresh y hy := by
    have hne : y ≠ x := Nat.ne_of_gt (Nat.lt_of_lt_of_le (h.lt_calls hx) hy)
    rw [World.setBlock_heap, Function.update_of_ne hne]
    exact h.fresh y hy
  freed y hy := by
    refine ⟨(h.freed y hy).1, ?_⟩
    rw [World.setBlock_heap, Function.update_of_ne]
    · exact (h.freed y hy).2
    · rintro rfl
      rw [(h.freed y hy).2] at hx
      exact nomatch hx
  freedOnce := h.freedOnce

theorem setPart (h : HeapOk w) (hx : w.heap x = some b) (hp : isPart p b) (hp' : isPart p b') :
    HeapOk (w.setBlock x (some b')) :=
  h.store hx (h.toMsgHeap.setPart hx hp hp')

theorem setMsghdr (h : HeapOk w) (ha : w.heap a = some (.msghdr m))
    (hm' : ∀ q y, part m' q = some y → part m q = some y ∨
      (∃ b, w.heap y = some b ∧ isPart q b) ∧ ∀ a' m₁ q', w.heap a' = some (.msghdr m₁) → part m₁ q' ≠ some y) :
    HeapOk (w.setBlock a (some (.msghdr m'))) :=
  h.store ha (h.toMsgHeap.setMsghdr ha hm')

end HeapOk

/-! ## Freeing -/

def freeOpt (w : World) : Option Addr → World
  | none => w
  | some x => w.free x

def freeAll (w : World) (a : Addr) (m : Msghdr) : World :=
  (freeOpt (freeOpt (freeOpt w m.msgIov) m.msgName) m.msgControl).free a

theorem run_vFreeNotNull {w : World} {p : Option Addr} (hp : ∀ x, p = some x → w.heap x ≠ none) :
    (vFreeNotNull p).run w = .ok () (freeOpt w p) := by
  cases p with
  | none => rfl
  | some x =>
      obtain ⟨b, hb⟩ := Option.ne_none_iff_exists'.mp (hp x rfl)
      exact run_vPortFree hb

@[simp] theorem freeOpt_heap (w : World) (p : Option Addr) (y : Addr) :
    (freeOpt w p).heap y = if p = some y then none else w.heap y := by
  cases p with
  | none => rfl
  | some x => simp [freeOpt, Function.update_apply, eq_comm]

@[simp] theorem freeOpt_freed (w : World) (p : Option Addr) : (freeOpt w p).freed = w.freed ++ p.toList := by
  cases p with
  | none => simp [freeOpt]
  | some x => rfl

/-- The blocks of a message, in the order they are freed in. -/
def blocks (a : Addr) (m : Msghdr) : List Addr := m.msgIov.toList ++ m.msgName.toList ++ m.msgControl.toList ++ [a]

theorem mem_blocks {a y : Addr} {m : Msghdr} : y ∈ blocks a m ↔ y = a ∨ ∃ p, part m p = some y := by
  simp only [blocks, List.mem_append, Option.mem_toList, List.mem_singleton]
  constructor
  · rintro (((h | h) | h) | h)
    · exact .inr ⟨.iov, h⟩
    · exact .inr ⟨.name, h⟩
    · exact .inr ⟨.control, h⟩
    · exact .inl h
  · rintro (h | ⟨p, h⟩)
    · exact .inr h
    · cases p with
      | iov => exact .inl (.inl (.inl h))
      | name => exact .inl (.inl (.inr h))
      | control => exact .inl (.inr h)

theorem freeAll_freed (w : World) (a : Addr) (m : Msghdr) : (freeAll w a m).freed = w.freed ++ blocks a m := by
  simp [freeAll, blocks]

theorem freeAll_dead (w : World) {a y : Addr} {m : Msghdr} (h : y = a ∨ ∃ p, part m p = some y) :
    (freeAll w a m).heap y = none := by
  rcases h with rfl | ⟨p, hp⟩
  · simp [freeAll]
  · cases p <;> simp [freeAll, part, Function.update_apply] at hp ⊢ <;> simp [hp]

theorem freeAll_keep (w : World) {a y : Addr} {m : Msghdr} (ha : y ≠ a) (h : ∀ p, part m p ≠ some y) :
    (freeAll w a m).heap y = w.heap y := by
  have hi : m.msgIov ≠ some y := h .iov
  have hn : m.msgName ≠ some y := h .name
  have hc : m.msgControl ≠ some y := h .control
  simp [freeAll, Function.update_of_ne ha, hi, hn, hc]

namespace MsgHeap

variable {heap : Addr → Option Block} {a x y : Addr} {m : Msghdr} {p q : Part}

theorem part_inj (h : MsgHeap heap) (ha : heap a = some (.msghdr m)) (hx : part m p = some x)
    (hy : part m q = some x) : p = q := by
  obtain ⟨b, hb, hp⟩ := h.live ha hx
  obtain ⟨b', hb', hq⟩ := h.live ha hy
  rw [hb] at hb'
  cases hb'
  exact isPart_inj hp hq

theorem part_ne_self (h : MsgHeap heap) (ha : heap a = some (.msghdr m)) : part m p ≠ some a :=
  fun hx => h.part_ne ha hx ha

theorem part_ne_none (h : MsgHeap heap) (ha : heap a = some (.msghdr m)) (hx : part m p = some x) :
    heap x ≠ none := by
  obtain ⟨b, hb, -⟩ := h.live ha hx
  rw [hb]
  exact Option.some_ne_none b

theorem part_ne_part (h : MsgHeap heap) (ha : heap a = some (.msghdr m)) (hpq : p ≠ q) (hx : part m p = some x) :
    part m q ≠ some x :=
  fun hy => hpq (h.part_inj ha hx hy)

theorem toList_nodup (p : Option Addr) : p.toList.Nodup := by
  cases p <;> simp

theorem blocks_nodup (h : MsgHeap heap) (ha : heap a = some (.msghdr m)) : (blocks a m).Nodup := by
  have hin : ∀ x, m.msgIov = some x → m.msgName ≠ some x := fun x hx =>
    h.part_ne_part (p := .iov) (q := .name) ha (by decide) hx
  have hic : ∀ x, m.msgIov = some x → m.msgControl ≠ some x := fun x hx =>
    h.part_ne_part (p := .iov) (q := .control) ha (by decide) hx
  have hnc : ∀ x, m.msgName = some x → m.msgControl ≠ some x := fun x hx =>
    h.part_ne_part (p := .name) (q := .control) ha (by decide) hx
  have hs : ∀ p, part m p ≠ some a := fun p => h.part_ne_self ha
  have hsi : m.msgIov ≠ some a := hs .iov
  have hsn : m.msgName ≠ some a := hs .name
  have hsc : m.msgControl ≠ some a := hs .control
  simp only [blocks, List.nodup_append, toList_nodup, true_and, List.mem_append, Option.mem_toList,
    List.mem_singleton]
  refine ⟨⟨?_, ?_⟩, List.pairwise_singleton _ a, ?_⟩
  · rintro x hx _ hy rfl
    exact hin x hx hy
  · rintro x (hx | hx) _ hy rfl
    · exact hic x hx hy
    · exact hnc x hx hy
  · rintro x ((hx | hx) | hx) _ rfl rfl
    · exact hsi hx
    · exact hsn hx
    · exact hsc hx

theorem blocks_disjoint (h : MsgHeap heap) {a' : Addr} {m' : Msghdr} (ha : heap a = some (.msghdr m))
    (ha' : heap a' = some (.msghdr m')) (hne : a ≠ a') (hy : y ∈ blocks a m) : y ∉ blocks a' m' := by
  rw [mem_blocks] at hy ⊢
  rcases hy with rfl | ⟨p, hp⟩
  · rintro (rfl | ⟨q, hq⟩)
    · exact hne rfl
    · exact h.part_ne ha' hq ha
  · rintro (rfl | ⟨q, hq⟩)
    · exact h.part_ne ha hp ha'
    · exact hne (h.owner ha ha' hp hq)

theorem tsnSocket_notMem_blocks (h : MsgHeap heap) (ha : heap a = some (.msghdr m)) {s : TSNSocket}
    (hs : heap x = some (.tsnSocket s)) : x ∉ blocks a m := by
  rw [mem_blocks]
  rintro (rfl | ⟨p, hp⟩)
  · rw [ha] at hs
    exact nomatch hs
  · obtain ⟨c, hc, hq⟩ := h.live ha hp
    rw [hs] at hc
    cases hc
    cases p <;> exact nomatch hq

end MsgHeap

theorem run_vAncillaryMsgFreeAll {w : World} (h : MsgHeap w.heap) {a : Addr} {m : Msghdr}
    (ha : w.heap a = some (.msghdr m)) : (vAncillaryMsgFreeAll a).run w = .ok () (freeAll w a m) := by
  have hi : ∀ x, m.msgIov = some x → w.heap x ≠ none := fun x hx => h.part_ne_none (p := .iov) ha hx
  have hn : ∀ x, m.msgName = some x → (freeOpt w m.msgIov).heap x ≠ none := by
    intro x hx
    have hxi : m.msgIov ≠ some x := h.part_ne_part (p := .name) (q := .iov) ha (by decide) hx
    rw [freeOpt_heap, if_neg hxi]
    exact h.part_ne_none (p := .name) ha hx
  have hc : ∀ x, m.msgControl = some x → (freeOpt (freeOpt w m.msgIov) m.msgName).heap x ≠ none := by
    intro x hx
    have hxn : m.msgName ≠ some x := h.part_ne_part (p := .control) (q := .name) ha (by decide) hx
    have hxi : m.msgIov ≠ some x := h.part_ne_part (p := .control) (q := .iov) ha (by decide) hx
    rw [freeOpt_heap, if_neg hxn, freeOpt_heap, if_neg hxi]
    exact h.part_ne_none (p := .control) ha hx
  have hs : (freeOpt (freeOpt (freeOpt w m.msgIov) m.msgName) m.msgControl).heap a = some (.msghdr m) := by
    have hself : ∀ p, part m p ≠ some a := fun p => h.part_ne_self ha
    have hsi : m.msgIov ≠ some a := hself .iov
    have hsn : m.msgName ≠ some a := hself .name
    have hsc : m.msgControl ≠ some a := hself .control
    rw [freeOpt_heap, if_neg hsc, freeOpt_heap, if_neg hsn, freeOpt_heap, if_neg hsi]
    exact ha
  rw [vAncillaryMsgFreeAll, run_bind_ok (run_loadMsghdr ha), run_bind_ok (run_vFreeNotNull hi),
    run_bind_ok (run_vFreeNotNull hn), run_bind_ok (run_vFreeNotNull hc)]
  exact run_vPortFree hs

theorem freeAll_heapStep (w : World) (a : Addr) (m : Msghdr) : HeapStep w (freeAll w a m) := by
  have hopt : ∀ w p, HeapStep w (freeOpt w p) := by
    intro w p
    cases p with
    | none => exact refl_of HeapStep w
    | some x => exact ⟨rfl, Nat.le_refl _⟩
  have hfree : HeapStep (freeOpt (freeOpt (freeOpt w m.msgIov) m.msgName) m.msgControl) (freeAll w a m) :=
    ⟨rfl, Nat.le_refl _⟩
  exact trans_of HeapStep (trans_of HeapStep (trans_of HeapStep (hopt _ _) (hopt _ _)) (hopt _ _)) hfree

@[simp] theorem freeAll_calls (w : World) (a : Addr) (m : Msghdr) : (freeAll w a m).calls = w.calls := by
  have hopt : ∀ w p, (freeOpt w p).calls = w.calls := by
    intro w p
    cases p <;> rfl
  simp [freeAll, hopt]

theorem HeapOk.freeAll {w : World} (h : HeapOk w) {a : Addr} {m : Msghdr} (ha : w.heap a = some (.msghdr m)) :
    HeapOk (freeAll w a m) where
  toMsgHeap := h.remove ha (fun y hy => freeAll_dead w hy) fun y hy hp => freeAll_keep w hy hp
  fresh := by
    intro x hx
    rw [freeAll_calls] at hx
    by_cases hd : x ∈ blocks a m
    · exact freeAll_dead w (mem_blocks.mp hd)
    · rw [mem_blocks, not_or, not_exists] at hd
      rw [freeAll_keep w hd.1 hd.2]
      exact h.fresh x hx
  freed := by
    intro x hx
    rw [freeAll_calls]
    by_cases hd : x ∈ blocks a m
    · refine ⟨?_, freeAll_dead w (mem_blocks.mp hd)⟩
      rcases mem_blocks.mp hd with rfl | ⟨p, hp⟩
      · exact h.lt_calls ha
      · obtain ⟨b, hb, -⟩ := h.live ha hp
        exact h.lt_calls hb
    · rw [freeAll_freed, List.mem_append, or_iff_left hd] at hx
      have hd' := hd
      rw [mem_blocks, not_or, not_exists] at hd'
      rw [freeAll_keep w hd'.1 hd'.2]
      exact h.freed x hx
  freedOnce := by
    rw [freeAll_freed, List.nodup_append]
    refine ⟨h.freedOnce, h.blocks_nodup ha, ?_⟩
    rintro x hx _ hd rfl
    have hnone := (h.freed x hx).2
    rcases mem_blocks.mp hd with rfl | ⟨p, hp⟩
    · rw [ha] at hnone
      exact nomatch hnone
    · exact h.part_ne_none ha hp hnone

end FreeRtosTsn.Packet
