import FreeRtosTsn.Packet.Lemmas.Sockets

/-!
# The report of a sent frame

What `prvReportSent` leaves on the heap and in the error queue of the socket.
-/

namespace FreeRtosTsn.Packet

open Lib Kernel

variable {w w' : World} {t : Addr} {s : TSNSocket}

/-- The socket wants the timestamp of a sent frame, and there is memory for it. -/
def Reports (w : World) (s : TSNSocket) : Prop :=
  hasFlag s.ulTSFlags sofTimestampingTxSoftware = true ∧ w.env.pvPortMalloc (w.calls + 1) = true

/-- The state with the message of a sent frame, whose control data is in the block after it. -/
def reportedWorld (w : World) (m : Msghdr) (bs : List UInt8) : World :=
  { w with
    calls := w.calls + 2
    heap := Function.update (Function.update w.heap w.calls (some (.msghdr m))) (w.calls + 1) (some (.control bs)) }

/-- How `prvReportSent` ends. -/
inductive ReportOutcome (cfg : Config) (w : World) (s : TSNSocket) : World → Prop
  | nothing {w' : World} : ¬Reports w s → w' = { w with calls := w'.calls, freed := w'.freed } →
      w.calls ≤ w'.calls → ReportOutcome cfg w s w'
  | queued {m : Msghdr} {bs : List UInt8} : Reports w s →
      (w.errQueues s.xErrQueue).length < cfg.tsnconfigErrqueueLength →
      (∀ p x, part m p = some x ↔ p = .control ∧ x = w.calls + 1) →
      ReportOutcome cfg w s
        ((reportedWorld w m bs).setErrQueue s.xErrQueue (w.errQueues s.xErrQueue ++ [w.calls]))
  | dropped {m : Msghdr} {bs : List UInt8} : Reports w s →
      ¬(w.errQueues s.xErrQueue).length < cfg.tsnconfigErrqueueLength →
      ReportOutcome cfg w s (reportedWorld w m bs)

theorem run_xSocketErrorQueueInsert_room {cfg : Config} (a : Addr) (hs : w.heap t = some (.tsnSocket s))
    (hroom : (w.errQueues s.xErrQueue).length < cfg.tsnconfigErrqueueLength) :
    (xSocketErrorQueueInsert cfg t a).run w =
      .ok true (w.setErrQueue s.xErrQueue (w.errQueues s.xErrQueue ++ [a])) := by
  rw [xSocketErrorQueueInsert, run_bind_ok (run_loadTsnSocket hs), run_bind_ok (EStateM.run_get w), if_pos hroom]
  rfl

theorem run_xSocketErrorQueueInsert_full {cfg : Config} (a : Addr) (hs : w.heap t = some (.tsnSocket s))
    (hfull : ¬(w.errQueues s.xErrQueue).length < cfg.tsnconfigErrqueueLength) :
    (xSocketErrorQueueInsert cfg t a).run w = .ok false w := by
  rw [xSocketErrorQueueInsert, run_bind_ok (run_loadTsnSocket hs), run_bind_ok (EStateM.run_get w), if_neg hfull]
  rfl

/-! ## The message -/

/-- The state with a message that has no parts yet. -/
def draftWorld (w : World) (n : Nat) (m : Msghdr) : World :=
  { w with calls := n, heap := Function.update w.heap w.calls (some (.msghdr m)) }

theorem draftWorld_heap_self (n : Nat) (m : Msghdr) : (draftWorld w n m).heap w.calls = some (.msghdr m) :=
  Function.update_self _ _ _

theorem draftWorld_setBlock (n : Nat) (m m' : Msghdr) :
    (draftWorld w n m).setBlock w.calls (some (.msghdr m')) = draftWorld w n m' := by
  simp [draftWorld, World.setBlock]

/-- A message without a timestamp is freed again. -/
theorem run_vAncillaryMsgFree_draft (hfresh : w.heap w.calls = none) (n : Nat) (m : Msghdr) :
    (vAncillaryMsgFree w.calls).run (draftWorld w n m) =
      .ok () { w with calls := n, freed := w.freed ++ [w.calls] } := by
  have hheap : Function.update w.heap w.calls none = w.heap := by rw [← hfresh, Function.update_eq_self]
  rw [vAncillaryMsgFree, run_vPortFree (draftWorld_heap_self n m)]
  simp [draftWorld, World.free, hheap]

theorem reportedWorld_setBlock (m m' : Msghdr) (bs : List UInt8) :
    (reportedWorld w m bs).setBlock w.calls (some (.msghdr m')) = reportedWorld w m' bs := by
  have hne : w.calls + 1 ≠ w.calls := Nat.succ_ne_self _
  simp [reportedWorld, World.setBlock, Function.update_comm hne]

theorem reportedWorld_heap_calls (m : Msghdr) (bs : List UInt8) :
    (reportedWorld w m bs).heap w.calls = some (.msghdr m) :=
  (Function.update_of_ne (Nat.succ_ne_self _).symm _ _).trans (Function.update_self _ _ _)

theorem packed_eq_reportedWorld (m m' : Msghdr) (junk bs : List UInt8) :
    ((((draftWorld w (w.calls + 1) m).tick.setBlock (w.calls + 1) (some (.control junk))).setBlock w.calls
      (some (.msghdr m'))).setBlock (w.calls + 1) (some (.control bs))) = reportedWorld w m' bs := by
  have hne : w.calls ≠ w.calls + 1 := (Nat.succ_ne_self _).symm
  simp [draftWorld, reportedWorld, World.setBlock, World.tick, Function.update_comm hne]

theorem vTimestampAcquireSoftware_inv {ts : Timespec} (h : vTimestampAcquireSoftware.run w = .ok ts w') :
    w' = w := by
  cases hset : w.bTimebaseHandleSet with
  | true =>
      have hacq : vTimestampAcquireSoftware.run w = .ok (w.env.fnGetTime w.calls) w := by
        simp -implicitDefEqProofs [vTimestampAcquireSoftware, hset]
      cases hacq.symm.trans h
      rfl
  | false =>
      have hnull : vTimestampAcquireSoftware.run w = .error .null w := by
        simp -implicitDefEqProofs [vTimestampAcquireSoftware, hset]
      cases hnull.symm.trans h

theorem prvAncillaryMsgControlFillForTx_inv {n : Nat} (hs : w.heap t = some (.tsnSocket s)) (hne : t ≠ w.calls)
    (h : (prvAncillaryMsgControlFillForTx w.calls t).run (draftWorld w (w.calls + 1) {}) = .ok n w') :
    (¬Reports w s ∧ n = 0 ∧ ∃ k m, w.calls ≤ k ∧ w' = draftWorld w k m) ∨
      (Reports w s ∧ n = 2 ∧ ∃ m bs, (∀ p x, part m p = some x ↔ p = .control ∧ x = w.calls + 1) ∧
        w' = reportedWorld w m bs) := by
  have hs' : (draftWorld w (w.calls + 1) {}).heap t = some (.tsnSocket s) :=
    (Function.update_of_ne hne _ _).trans hs
  rw [prvAncillaryMsgControlFillForTx, run_bind_ok (run_loadTsnSocket hs')] at h
  by_cases hflag : hasFlag s.ulTSFlags sofTimestampingTxSoftware = true
  · rw [if_pos hflag] at h
    obtain ⟨x, w₁, hload, h₁⟩ := run_bind_inv h
    obtain ⟨rfl, -⟩ := loadBaseSocket_inv hload
    obtain ⟨ts, w₂, hts, h₂⟩ := run_bind_inv h₁
    obtain rfl := vTimestampAcquireSoftware_inv hts
    have hdraft := draftWorld_heap_self (w := w) (w.calls + 1) {}
    cases hm : w.env.pvPortMalloc (w.calls + 1) with
    | true =>
        have hm' : (draftWorld w (w.calls + 1) {}).env.pvPortMalloc (draftWorld w (w.calls + 1) {}).calls = true := hm
        obtain ⟨junk, bs, hrun⟩ := run_xAncillaryMsgControlFill_ok hm' hdraft (Nat.succ_ne_self _).symm
          (List.cons_ne_nil (sockExtendedErr x.bIsIPv6)
            [⟨freertosSolSocket, freertosScmTimestamping, scmTimestamping ts⟩])
        have hpacked := hrun.trans (congrArg (EStateM.Result.ok true) (packed_eq_reportedWorld _ _ junk bs))
        rw [run_bind_ok hpacked, if_pos rfl, run_bind_ok (run_loadMsghdr (reportedWorld_heap_calls _ _)),
          run_bind_ok (run_storeMsghdr _ _ _), reportedWorld_setBlock] at h₂
        cases h₂
        refine Or.inr ⟨⟨hflag, hm⟩, rfl, _, bs, fun p y => ?_, rfl⟩
        cases p <;> simp [part, eq_comm]
        rfl
    | false =>
        have hm' : (draftWorld w (w.calls + 1) {}).env.pvPortMalloc (draftWorld w (w.calls + 1) {}).calls = false := hm
        rw [run_bind_ok (run_xAncillaryMsgControlFill_null hm' hdraft _), if_neg Bool.false_ne_true] at h₂
        cases h₂
        refine Or.inl ⟨fun hr => ?_, rfl, w.calls + 2, _, Nat.le_add_right _ 2,
          draftWorld_setBlock (w := w) (w.calls + 2) {} _⟩
        rw [hr.2] at hm
        cases hm
  · rw [if_neg hflag] at h
    have hclear : (prvClearControl w.calls).run (draftWorld w (w.calls + 1) {}) =
        .ok () (draftWorld w (w.calls + 1) {}) := by
      rw [prvClearControl, run_bind_ok (run_loadMsghdr (draftWorld_heap_self _ _)), run_storeMsghdr,
        draftWorld_setBlock]
    rw [run_bind_ok hclear] at h
    cases h
    exact Or.inl ⟨fun hr => hflag hr.1, rfl, _, _, Nat.le_succ _, rfl⟩

/-! ## The report -/

theorem prvReportSent_inv {cfg : Config} (hfresh : ∀ y, w.calls ≤ y → w.heap y = none)
    (hs : w.heap t = some (.tsnSocket s)) (h : (prvReportSent cfg t).run w = .ok () w') :
    ReportOutcome cfg w s w' := by
  have hlt : t < w.calls := by
    by_contra hge
    rw [hfresh t (Nat.not_lt.mp hge)] at hs
    cases hs
  cases hm : w.env.pvPortMalloc w.calls with
  | false =>
      rw [prvReportSent, run_bind_error (pxAncillaryMsgMalloc_null hm)] at h
      cases h
  | true =>
      rw [prvReportSent, run_bind_ok (run_pxAncillaryMsgMalloc_ok hm)] at h
      obtain ⟨n, w₁, hfill, h₁⟩ := run_bind_inv h
      rcases prvAncillaryMsgControlFillForTx_inv hs (Nat.ne_of_lt hlt) hfill with
        ⟨hr, rfl, k, m, hk, rfl⟩ | ⟨hr, rfl, m, bs, hparts, rfl⟩
      · rw [if_neg (Nat.lt_irrefl 0), run_vAncillaryMsgFree_draft (hfresh _ (Nat.le_refl _))] at h₁
        cases h₁
        exact .nothing hr rfl hk
      · have hname : (xAncillaryMsgFillName w.calls none 0 0).run (reportedWorld w m bs) =
            .ok true (reportedWorld w { m with msgName := none, msgNamelen := 0 } bs) := by
          rw [xAncillaryMsgFillName, run_bind_ok (run_loadMsghdr (reportedWorld_heap_calls _ _)),
            run_bind_ok (run_storeMsghdr _ _ _), reportedWorld_setBlock]
          rfl
        have hs' : (reportedWorld w { m with msgName := none, msgNamelen := 0 } bs).heap t = some (.tsnSocket s) :=
          (Function.update_of_ne (Nat.ne_of_lt (Nat.lt_succ_of_lt hlt)) _ _).trans
            ((Function.update_of_ne (Nat.ne_of_lt hlt) _ _).trans hs)
        rw [if_pos (Nat.succ_pos 1), run_bind_ok hname] at h₁
        by_cases hroom : (w.errQueues s.xErrQueue).length < cfg.tsnconfigErrqueueLength
        · rw [run_bind_ok (run_xSocketErrorQueueInsert_room w.calls hs' hroom)] at h₁
          cases h₁
          refine .queued hr hroom fun p x => ?_
          cases p with
          | iov => exact hparts .iov x
          | name => simp [part]
          | control => exact hparts .control x
        · rw [run_bind_ok (run_xSocketErrorQueueInsert_full w.calls hs' hroom)] at h₁
          cases h₁
          exact .dropped hr hroom

end FreeRtosTsn.Packet
