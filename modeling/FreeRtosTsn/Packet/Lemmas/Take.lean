import FreeRtosTsn.Packet.Lemmas.Receive

/-!
# Taking a message

What `FreeRTOS_TSN_recvmsg` does with the heap and the buffers once it has a message, and what the user gets.
-/

namespace FreeRtosTsn.Packet

open Lib Kernel

variable {w w' : World} {a : Addr} {m : Msghdr} {u : UserMsghdr}

/-! ## Loads -/

theorem loadBlock_inv {α : Type} {f : Block → Option α} {x : α} (h : (loadBlock f a).run w = .ok x w') :
    w' = w ∧ (w.heap a).bind f = some x := by
  obtain ⟨_, w₁, hget, h⟩ := run_bind_inv h
  cases hget
  cases hx : (w.heap a).bind f with
  | some y =>
      rw [hx] at h
      cases h
      exact ⟨rfl, rfl⟩
  | none =>
      rw [hx] at h
      exact nomatch h

theorem loadMsghdr_inv (h : (loadMsghdr a).run w = .ok m w') : w' = w ∧ w.heap a = some (.msghdr m) := by
  obtain ⟨hw, hb⟩ := loadBlock_inv h
  refine ⟨hw, ?_⟩
  obtain ⟨b, hb, hm⟩ := Option.bind_eq_some_iff.mp hb
  cases b <;> simp at hm
  rw [hb, hm]

theorem loadIovec_inv {v : List Iovec} (h : (loadIovec a).run w = .ok v w') :
    w' = w ∧ w.heap a = some (.iovec v) := by
  obtain ⟨hw, hb⟩ := loadBlock_inv h
  refine ⟨hw, ?_⟩
  obtain ⟨b, hb, hm⟩ := Option.bind_eq_some_iff.mp hb
  cases b <;> simp at hm
  rw [hb, hm]

/-! ## Reads -/

theorem loadBlock_reads {α : Type} (f : Block → Option α) (a : Addr) : Keeps Reads (loadBlock f a) := by
  apply Keeps.get
  intro w
  split
  · exact refl_of Reads w
  · exact refl_of Reads w

theorem ethOf_reads (p : Ptr) : Keeps Reads (ethOf p) := by
  cases p with
  | eth b o => exact Keeps.pure _
  | blk a => exact Keeps.throw _

theorem checkAccess_reads (b : BufId) (o n : Nat) : Keeps Reads (checkAccess b o n) := Keeps.modify fun _ => ⟨rfl⟩

theorem access_reads {α : Type} (p : Ptr) (g : Nat → Nat) (n : Nat) (f : Nat → Mem → α) :
    Keeps Reads (do
      let (b, o) ← ethOf p
      checkAccess b (g o) n
      return f o ((← get).mem b) : M α) := by
  apply (ethOf_reads p).bind
  rintro ⟨b, o⟩
  apply (checkAccess_reads b (g o) n).bind
  intro _
  exact Keeps.get fun w => refl_of Reads w

theorem readBytes_reads (p : Ptr) (n : Nat) : Keeps Reads (readBytes p n) :=
  access_reads p (fun o => o) n fun o m => m.read o n

theorem load8_reads (p : Ptr) (off : Nat) : Keeps Reads (load8 p off) :=
  access_reads p (fun o => o + off) 1 fun o m => m (o + off)

theorem load16_reads (p : Ptr) (off : Nat) : Keeps Reads (load16 p off) :=
  access_reads p (fun o => o + off) 2 fun o m => m.load16 (o + off)

theorem load32_reads (p : Ptr) (off : Nat) : Keeps Reads (load32 p off) :=
  access_reads p (fun o => o + off) 4 fun o m => m.load32 (o + off)

theorem prvProtocol_reads (p : Ptr) (t : UInt16) : Keeps Reads (prvProtocol p t) := by
  apply Keeps.ite
  · exact (load8_reads p _).bind fun _ => Keeps.pure _
  · apply Keeps.ite
    · exact (load8_reads p _).bind fun _ => Keeps.pure _
    · exact Keeps.pure _

theorem prvMoveToStartOfPayload_reads (v : Iovec) : Keeps Reads (prvMoveToStartOfPayload v) := by
  apply (load16_reads _ _).bind
  intro t
  apply (prvProtocol_reads _ t).bind
  rintro ⟨ucProtocol, uxPrefix⟩
  apply Keeps.ite
  · exact (load16_reads _ _).bind fun _ => Keeps.pure _
  · exact Keeps.pure _

theorem prvCopyPayload_reads (n : Nat) (us : List (List UInt8 × Nat)) (vs : List Iovec) :
    Keeps Reads (prvCopyPayload n us vs) := by
  induction n generalizing us vs with
  | zero => exact Keeps.pure _
  | succ n ih =>
      cases us with
      | nil => exact Keeps.throw _
      | cons x us =>
          cases vs with
          | nil => exact Keeps.throw _
          | cons v vs =>
              apply (readBytes_reads _ _).bind
              intro bs
              exact (ih us vs).bind fun _ => Keeps.pure _

theorem prvCopyName_reads (m : Msghdr) (u : UserMsghdr) : Keeps Reads (prvCopyName m u) := by
  unfold prvCopyName
  split
  · exact (loadBlock_reads _ _).bind fun _ => Keeps.pure _
  · exact Keeps.pure _

theorem prvCopyControl_reads (m : Msghdr) (u : UserMsghdr) : Keeps Reads (prvCopyControl m u) := by
  unfold prvCopyControl
  split
  · exact (loadBlock_reads _ _).bind fun _ => Keeps.pure _
  · exact Keeps.pure _

/-! ## The state after a message was taken -/

/-- The vector of the message may have been changed; nothing else was, up to reads. -/
structure VectorMoved (m : Msghdr) (w w' : World) : Prop where
  eq : w' = { w with heap := w'.heap, overruns := w'.overruns }
  heap : w'.heap = w.heap ∨ ∃ i v v', m.msgIov = some i ∧ w.heap i = some (.iovec v) ∧
    w'.heap = Function.update w.heap i (some (.iovec v'))

theorem Reads.vectorMoved {w w' : World} (h : Reads w w') (m : Msghdr) : VectorMoved m w w' := by
  rw [h.eq]
  exact ⟨rfl, .inl rfl⟩

theorem prvCopyIov_inv {r : UserMsghdr × Nat} (h : (prvCopyIov m u).run w = .ok r w') : VectorMoved m w w' := by
  unfold prvCopyIov at h
  split at h
  · rename_i i us hi _
    obtain ⟨v, w₁, hload, h⟩ := run_bind_inv h
    obtain ⟨rfl, hv⟩ := loadIovec_inv hload
    cases v with
    | nil => exact nomatch h
    | cons v vs =>
        obtain ⟨v', w₂, hmove, h⟩ := run_bind_inv h
        obtain ⟨_, w₃, hstore, h⟩ := run_bind_inv h
        cases hstore
        obtain ⟨r', w₄, hcopy, h⟩ := run_bind_inv h
        cases h
        have h₂ := (prvMoveToStartOfPayload_reads v).ok hmove
        have h₄ := (prvCopyPayload_reads _ _ _).ok hcopy
        refine ⟨?_, .inr ⟨i, v :: vs, v' :: vs, hi, hv, ?_⟩⟩
        · rw [h₄.eq, h₂.eq]
          rfl
        · rw [h₄.heap, World.setBlock_heap, h₂.heap]
  · cases h
    exact (refl_of Reads w).vectorMoved m

namespace VectorMoved

theorem reads {w'' : World} (h : VectorMoved m w w') (h' : Reads w' w'') : VectorMoved m w w'' := by
  obtain ⟨heq, hheap⟩ := h
  rw [h'.eq]
  exact ⟨by rw [heq], hheap⟩

theorem msghdr (h : VectorMoved m w w') (hw : MsgHeap w.heap) (ha : w.heap a = some (.msghdr m)) :
    w'.heap a = some (.msghdr m) := by
  rcases h.heap with hsame | ⟨i, v, v', hi, -, hmoved⟩
  · rw [hsame]
    exact ha
  · rw [hmoved, Function.update_of_ne]
    · exact ha
    · rintro rfl
      exact hw.part_ne_self (p := .iov) ha hi

theorem heapOk (h : VectorMoved m w w') (hw : HeapOk w) : HeapOk w' := by
  rw [h.eq]
  rcases h.heap with hsame | ⟨i, v, v', -, hv, hmoved⟩
  · rw [hsame]
    exact ⟨hw.toMsgHeap, hw.fresh, hw.freed, hw.freedOnce⟩
  · rw [hmoved]
    have hset : HeapOk (w.setBlock i (some (.iovec v'))) := hw.setPart (p := .iov) hv rfl rfl
    exact ⟨hset.toMsgHeap, hset.fresh, hset.freed, hset.freedOnce⟩

theorem keep (h : VectorMoved m w w') {y : Addr} (hy : m.msgIov ≠ some y) : w'.heap y = w.heap y := by
  rcases h.heap with hsame | ⟨i, v, v', hi, -, hmoved⟩
  · rw [hsame]
  · rw [hmoved, Function.update_of_ne]
    rintro rfl
    exact hy hi

end VectorMoved

/-- The effect of taking the message at `a`, and of releasing the buffer that goes with it. -/
structure Taken (w w' : World) (a : Addr) (m : Msghdr) (pxBuf : Option BufId) : Prop where
  eq : w' = { w with heap := w'.heap, freed := w'.freed, overruns := w'.overruns, released := w'.released }
  heapOk : HeapOk w'
  dead : ∀ y ∈ blocks a m, w'.heap y = none
  keep : ∀ y ∉ blocks a m, w'.heap y = w.heap y
  freed : w'.freed = w.freed ++ blocks a m
  released : w'.released = w.released ++ (pxBuf.map fun b => (b, (w.bufs b).pucEthernetBuffer)).toList

theorem VectorMoved.taken (h : VectorMoved m w w') (hw : HeapOk w) (ha : w.heap a = some (.msghdr m)) :
    Taken w (freeAll w' a m) a m none := by
  have hstep := (freeAll_heapStep w' a m).eq
  have hok := (h.heapOk hw).freeAll (h.msghdr hw.toMsgHeap ha)
  refine ⟨?_, hok, fun y hy => freeAll_dead w' (mem_blocks.mp hy), ?_, ?_, ?_⟩
  · rw [hstep, freeAll_calls, h.eq]
  · intro y hy
    have hy' := hy
    rw [mem_blocks, not_or, not_exists] at hy'
    rw [freeAll_keep w' hy'.1 hy'.2, h.keep (hy'.2 .iov)]
  · rw [freeAll_freed, h.eq]
  · rw [hstep, h.eq]
    simp

theorem Taken.release (h : Taken w w' a m none) (b : BufId) : Taken w (w'.release b) a m (some b) where
  eq := by rw [h.eq]; rfl
  heapOk := ⟨h.heapOk.toMsgHeap, h.heapOk.fresh, h.heapOk.freed, h.heapOk.freedOnce⟩
  dead := h.dead
  keep := h.keep
  freed := h.freed
  released := by
    have hbufs : w'.bufs = w.bufs := by rw [h.eq]
    simp [h.released, hbufs]

theorem Taken.other {pxBuf : Option BufId} (h : Taken w w' a m pxBuf) (hw : MsgHeap w.heap)
    (ha : w.heap a = some (.msghdr m)) {a' y : Addr} {m' : Msghdr} (ha' : w.heap a' = some (.msghdr m'))
    (hne : a' ≠ a) (hy : y ∈ blocks a' m') : w'.heap y = w.heap y :=
  h.keep y (hw.blocks_disjoint ha' ha hne hy)

theorem Taken.carries {pxBuf : Option BufId} (h : Taken w w' a m pxBuf) (hw : MsgHeap w.heap)
    (ha : w.heap a = some (.msghdr m)) {a' i : Addr} {b : BufId} {m' : Msghdr} {n : Nat}
    (hc : Carries w a' b m' i n) (hne : a' ≠ a) : Carries w' a' b m' i n where
  msghdr := by
    rw [h.other hw ha hc.msghdr hne (mem_blocks.mpr (.inl rfl))]
    exact hc.msghdr
  msgFlags := hc.msgFlags
  msgIov := hc.msgIov
  msgIovlen := hc.msgIovlen
  iovec := by
    rw [h.other hw ha hc.msghdr hne (mem_blocks.mpr (.inr ⟨.iov, hc.msgIov⟩))]
    exact hc.iovec

theorem Taken.tsnSocket {pxBuf : Option BufId} (h : Taken w w' a m pxBuf) (hw : MsgHeap w.heap)
    (ha : w.heap a = some (.msghdr m)) {t : Addr} {s : TSNSocket} (ht : w.heap t = some (.tsnSocket s)) :
    w'.heap t = some (.tsnSocket s) := by
  rw [h.keep t (hw.tsnSocket_notMem_blocks ha ht)]
  exact ht

theorem prvTakeMessage_inv (hw : HeapOk w) {pxBuf : Option BufId} {r : Int × UserMsghdr}
    (h : (prvTakeMessage a pxBuf u).run w = .ok r w') : ∃ m, w.heap a = some (.msghdr m) ∧ Taken w w' a m pxBuf := by
  obtain ⟨m, w₁, hload, h₁⟩ := run_bind_inv h
  obtain ⟨rfl, ha⟩ := loadMsghdr_inv hload
  obtain ⟨u₁, w₂, hname, h₂⟩ := run_bind_inv h₁
  obtain ⟨⟨u₂, uxPayloadLen⟩, w₃, hiov, h₃⟩ := run_bind_inv h₂
  obtain ⟨u₃, w₄, hcontrol, h₄⟩ := run_bind_inv h₃
  have hname := (prvCopyName_reads m u).ok hname
  have hw₂ : HeapOk w₂ := by
    rw [hname.eq]
    exact ⟨hw.toMsgHeap, hw.fresh, hw.freed, hw.freedOnce⟩
  have hmoved : VectorMoved m w₁ w₄ := by
    have hiov := (prvCopyIov_inv hiov).reads ((prvCopyControl_reads m _).ok hcontrol)
    rw [hname.eq] at hiov
    exact ⟨hiov.eq, hiov.heap⟩
  refine ⟨m, ha, ?_⟩
  have htaken := hmoved.taken hw ha
  rw [run_bind_ok (run_vAncillaryMsgFreeAll (hmoved.heapOk hw).toMsgHeap (hmoved.msghdr hw.toMsgHeap ha))] at h₄
  cases pxBuf with
  | none =>
      cases h₄
      exact htaken
  | some b =>
      cases h₄
      exact htaken.release b

/-! ## What the user gets -/

def copiedName (heap : Addr → Option Block) (m : Msghdr) (u : UserMsghdr) : UserMsghdr :=
  match m.msgName.bind heap, u.msgName with
  | some (.sockaddr name), some dst =>
      let uxLen := min u.msgNamelen m.msgNamelen
      { u with msgName := some (copyTo dst (name.bytes.take uxLen)), msgNamelen := uxLen }
  | _, _ => { u with msgNamelen := 0 }

def copiedControl (heap : Addr → Option Block) (m : Msghdr) (u : UserMsghdr) : UserMsghdr :=
  match u.msgControl, m.msgControl.bind heap with
  | some dst, some (.control bs) =>
      let uxLen := min u.msgControllen m.msgControllen
      { u with msgControl := some (copyTo dst (bs.take uxLen)), msgControllen := uxLen }
  | _, _ => { u with msgControllen := 0 }

/-- Where the payload of a frame starts, and its length as the user sees it. -/
def payloadOf (m : Mem) (uxLength : Nat) : Nat × Nat :=
  if protocolOf m = ipProtocolUdp then
    (uxPrefixOf m + ipSizeOfUdpHeader, (swap16 (m.load16 (uxPrefixOf m + 4))).toNat)
  else (0, uxLength)

/-- A payload in one piece; `none` is a vector of the user that is too short. -/
def copiedPayload (m : Mem) (p : Nat × Nat) : Nat → List (List UInt8 × Nat) → Option (List (List UInt8 × Nat) × Nat)
  | 0, us => some (us, 0)
  | _ + 1, [] => none
  | _ + 1, (dst, iovLen) :: us =>
      let uxLen := min iovLen p.2
      some ((copyTo dst (m.read p.1 uxLen), uxLen) :: us, uxLen)

def copiedIov (m : Mem) (uxLength : Nat) (u : UserMsghdr) : Option (UserMsghdr × Nat) :=
  match u.msgIov with
  | none => some ({ u with msgIovlen := 0 }, 0)
  | some us =>
      (copiedPayload m (payloadOf m uxLength) (min u.msgIovlen 1) us).map fun r =>
        ({ u with msgIov := some r.1, msgIovlen := min u.msgIovlen 1 }, r.2)

/-- What is returned with the message `m` of the frame in `b`. -/
def takenMessage (w : World) (m : Msghdr) (b : BufId) (uxLength : Nat) (u : UserMsghdr) : Option (Int × UserMsghdr) :=
  (copiedIov (w.mem b) uxLength (copiedName w.heap m u)).map fun r =>
    ((r.2 : Int), { copiedControl w.heap m r.1 with msgFlags := m.msgFlags })

section Values

variable {b : BufId} {i : Addr} {n : Nat}

theorem run_prvCopyName (hw : MsgHeap w.heap) (ha : w.heap a = some (.msghdr m)) :
    (prvCopyName m u).run w = .ok (copiedName w.heap m u) w := by
  unfold prvCopyName copiedName
  cases hn : m.msgName with
  | none => rfl
  | some x =>
      obtain ⟨c, hc, hp⟩ := hw.live (p := .name) ha hn
      cases c with
      | sockaddr name =>
          cases hu : u.msgName with
          | none =>
              rw [Option.bind_some, hc]
              rfl
          | some dst =>
              rw [Option.bind_some, hc, run_bind_ok (run_loadSockaddr hc)]
              rfl
      | _ => exact nomatch hp

theorem run_prvCopyControl (hw : MsgHeap w.heap) (ha : w.heap a = some (.msghdr m)) :
    (prvCopyControl m u).run w = .ok (copiedControl w.heap m u) w := by
  unfold prvCopyControl copiedControl
  cases hn : m.msgControl with
  | none =>
      cases hu : u.msgControl with
      | none => rfl
      | some dst => rfl
  | some x =>
      obtain ⟨c, hc, hp⟩ := hw.live (p := .control) ha hn
      cases c with
      | control bs =>
          cases hu : u.msgControl with
          | none =>
              rw [Option.bind_some, hc]
              rfl
          | some dst =>
              rw [Option.bind_some, hc, run_bind_ok (run_loadControl hc)]
              rfl
      | _ => exact nomatch hp

theorem run_prvMoveToStartOfPayload :
    ∃ w', (prvMoveToStartOfPayload ⟨.eth b 0, n⟩).run w =
      .ok ⟨.eth b (payloadOf (w.mem b) n).1, (payloadOf (w.mem b) n).2⟩ w' ∧ Reads w w' := by
  have hproto : ∃ w', (prvProtocol (.eth b 0) ((w.mem b).load16 ethFrameType)).run (w.accessed b ethFrameType 2) =
      .ok (protocolOf (w.mem b), uxPrefixOf (w.mem b)) w' ∧ Reads w w' := by
    unfold protocolOf uxPrefixOf
    by_cases h4 : (w.mem b).load16 ethFrameType = ipIPv4FrameType
    · simp -implicitDefEqProofs [prvProtocol, h4]
      exact ⟨rfl⟩
    · by_cases h6 : (w.mem b).load16 ethFrameType = ipIPv6FrameType
      · simp -implicitDefEqProofs [prvProtocol, h6, show ipIPv6FrameType ≠ ipIPv4FrameType by decide]
        exact ⟨rfl⟩
      · exact ⟨w.accessed b ethFrameType 2, by simp -implicitDefEqProofs [prvProtocol, h4, h6], ⟨rfl⟩⟩
  obtain ⟨w₁, hrun, hr⟩ := hproto
  rw [prvMoveToStartOfPayload, run_bind_ok (run_load16 w b 0 ethFrameType), Nat.zero_add, run_bind_ok hrun]
  unfold payloadOf
  by_cases hu : protocolOf (w.mem b) = ipProtocolUdp
  · have hr₁ : Reads w₁ (w₁.accessed b (0 + (uxPrefixOf (w.mem b) + 4)) 2) := ⟨rfl⟩
    refine ⟨_, ?_, trans_of Reads hr hr₁⟩
    simp -implicitDefEqProofs [hu, Ptr.add, hr.mem]
  · refine ⟨w₁, ?_, hr⟩
    simp -implicitDefEqProofs [hu]

theorem run_prvCopyIov (h : Carries w a b m i n) :
    match copiedIov (w.mem b) n u with
    | some r => ∃ w', (prvCopyIov m u).run w = .ok r w'
    | none => ∃ w', (prvCopyIov m u).run w = .error .heap w' := by
  unfold prvCopyIov copiedIov
  rw [h.msgIov, h.msgIovlen]
  cases hu : u.msgIov with
  | none => exact ⟨w, rfl⟩
  | some us =>
      obtain ⟨w₁, hmove, hr⟩ := run_prvMoveToStartOfPayload (w := w) (b := b) (n := n)
      dsimp only
      rw [run_bind_ok (run_loadIovec h.iovec)]
      dsimp only
      rw [run_bind_ok hmove, run_bind_ok (run_storeIovec _ _ _)]
      cases hk : u.msgIovlen with
      | zero => exact ⟨_, rfl⟩
      | succ k =>
          rw [show min (k + 1) 1 = 1 by omega]
          cases us with
          | nil => exact ⟨_, rfl⟩
          | cons x us =>
              simp only [prvCopyPayload, copiedPayload, Option.map_some]
              refine ⟨(w₁.setBlock i (some (.iovec [⟨.eth b (payloadOf (w.mem b) n).1, (payloadOf (w.mem b) n).2⟩]))).accessed b
                (payloadOf (w.mem b) n).1 (min x.2 (payloadOf (w.mem b) n).2), ?_⟩
              simp -implicitDefEqProofs [hr.mem]

/-- The message of a frame is taken unless the vector of the user is too short. -/
theorem run_prvTakeMessage (hw : HeapOk w) (h : Carries w a b m i n) (pxBuf : Option BufId) :
    match takenMessage w m b n u with
    | some r => ∃ w', (prvTakeMessage a pxBuf u).run w = .ok r w'
    | none => ∃ w', (prvTakeMessage a pxBuf u).run w = .error .heap w' := by
  have hiov := run_prvCopyIov (u := copiedName w.heap m u) h
  unfold takenMessage
  rw [prvTakeMessage, run_bind_ok (run_loadMsghdr h.msghdr), run_bind_ok (run_prvCopyName hw.toMsgHeap h.msghdr)]
  cases hc : copiedIov (w.mem b) n (copiedName w.heap m u) with
  | none =>
      rw [hc] at hiov
      obtain ⟨w', hrun⟩ := hiov
      exact ⟨w', run_bind_error hrun⟩
  | some r =>
      rw [hc] at hiov
      obtain ⟨w₁, hrun⟩ := hiov
      have hmoved := prvCopyIov_inv hrun
      have hw₁ := hmoved.heapOk hw
      have ha₁ := hmoved.msghdr hw.toMsgHeap h.msghdr
      have hcontrol : copiedControl w₁.heap m r.1 = copiedControl w.heap m r.1 := by
        unfold copiedControl
        cases hx : m.msgControl with
        | none => rfl
        | some x =>
            have hne : m.msgIov ≠ some x :=
              hw.toMsgHeap.part_ne_part (p := .control) (q := .iov) h.msghdr (by decide) hx
            rw [Option.bind_some, Option.bind_some, hmoved.keep hne]
      rw [run_bind_ok hrun]
      dsimp only
      rw [run_bind_ok (run_prvCopyControl hw₁.toMsgHeap ha₁),
        run_bind_ok (run_vAncillaryMsgFreeAll hw₁.toMsgHeap ha₁), hcontrol]
      cases pxBuf with
      | none => exact ⟨_, rfl⟩
      | some c => exact ⟨_, rfl⟩

theorem run_prvTakeMessage_error (hw : HeapOk w) (ha : w.heap a = some (.msghdr m)) (hi : m.msgIov = none) :
    ∃ r w', (prvTakeMessage a none u).run w = .ok r w' := by
  have hiov : (prvCopyIov m (copiedName w.heap m u)).run w = .ok ({ copiedName w.heap m u with msgIovlen := 0 }, 0) w := by
    unfold prvCopyIov
    rw [hi]
    rfl
  rw [prvTakeMessage, run_bind_ok (run_loadMsghdr ha), run_bind_ok (run_prvCopyName hw.toMsgHeap ha), run_bind_ok hiov]
  dsimp only
  rw [run_bind_ok (run_prvCopyControl hw.toMsgHeap ha), run_bind_ok (run_vAncillaryMsgFreeAll hw.toMsgHeap ha)]
  exact ⟨_, _, rfl⟩

/-- What the user gets depends on the frame and on the blocks of the message. -/
theorem takenMessage_congr (hb : w'.mem b = w.mem b) (hm : ∀ p y, part m p = some y → w'.heap y = w.heap y) :
    takenMessage w' m b n u = takenMessage w m b n u := by
  have hname : m.msgName.bind w'.heap = m.msgName.bind w.heap := by
    cases hx : m.msgName with
    | none => rfl
    | some y => exact hm .name y hx
  have hcontrol : m.msgControl.bind w'.heap = m.msgControl.bind w.heap := by
    cases hx : m.msgControl with
    | none => rfl
    | some y => exact hm .control y hx
  unfold takenMessage copiedName copiedControl
  rw [hb, hname, hcontrol]

end Values

end FreeRtosTsn.Packet
