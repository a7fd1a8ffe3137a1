import FreeRtosTsn.Packet.Lemmas.Messages

/-!
# Building the message of a frame

`Building` holds from the allocation of a message on, until it is handed over: the message is new, and nothing that
existed before is changed.
-/

namespace FreeRtosTsn.Packet

open Lib Kernel

/-- Blocks were added to the heap of `w₀`, and nothing else changed. -/
structure Extends (w₀ w : World) : Prop where
  heapOk : HeapOk w
  step : HeapStep w₀ w
  old : ∀ x < w₀.calls, w.heap x = w₀.heap x
  oldFreed : w.freed = w₀.freed

theorem Extends.trans {w₀ w₁ w₂ : World} (h : Extends w₀ w₁) (h' : Extends w₁ w₂) : Extends w₀ w₂ where
  heapOk := h'.heapOk
  step := trans_of HeapStep h.step h'.step
  old x hx := (h'.old x (Nat.lt_of_lt_of_le hx h.step.calls_le)).trans (h.old x hx)
  oldFreed := h'.oldFreed.trans h.oldFreed

theorem Extends.tick {w : World} (h : HeapOk w) : Extends w w.tick where
  heapOk := h.tick
  step := (refl_of HeapStep w).tick
  old _ _ := rfl
  oldFreed := rfl

/-- A block that is no message, or a message that names nothing. -/
theorem Extends.alloc {w : World} (h : HeapOk w) {b : Block} (hb : ∀ m p, b = .msghdr m → part m p = none) :
    Extends w (w.tick.setBlock w.calls (some b)) where
  heapOk := h.alloc hb
  step := (refl_of HeapStep w).tick.setBlock _ _
  old x hx := by rw [World.setBlock_heap, Function.update_of_ne (Nat.ne_of_lt hx)]; rfl
  oldFreed := rfl

/-- The message `m` at `a` is being built since `w₀`. -/
structure Building (w₀ w : World) (a : Addr) (m : Msghdr) : Prop extends Extends w₀ w where
  msghdr : w.heap a = some (.msghdr m)
  msgFlags : m.msgFlags = 0
  new : w₀.calls ≤ a

variable {w₀ w : World} {a : Addr} {m : Msghdr}

/-! ## Control messages -/

theorem cmsgAlign_cmsgLen (n : Nat) : cmsgAlign (cmsgLen n) = cmsgSpace n := by
  simp only [cmsgAlign, cmsgLen, cmsgSpace, cmsghdrSize]
  omega

/-- There is room for the messages that the size was computed from. -/
theorem prvPackControl_isSome {n : Nat} (cs : List ControlMsg) :
    ∀ (bs : List UInt8) (off : Nat), off + uxControlSpace cs ≤ n → ∃ bs', prvPackControl n bs (some off) cs = some bs' := by
  induction cs with
  | nil => exact fun _ _ _ => ⟨_, rfl⟩
  | cons c cs ih =>
      intro bs off h
      simp only [prvPackControl, cmsgNxtHdr, cmsgAlign_cmsgLen]
      cases cs with
      | nil => exact ⟨putControl bs off c, by split <;> rfl⟩
      | cons c' cs =>
          simp only [uxControlSpace, List.map_cons, List.sum_cons] at h
          have hroom : ¬off + cmsgSpace c.data.length + cmsghdrSize > n := by
            have : cmsghdrSize ≤ cmsgSpace c'.data.length := by
              simp only [cmsgSpace, cmsgAlign, cmsghdrSize]
              omega
            omega
          rw [if_neg hroom]
          apply ih
          simp only [uxControlSpace, List.map_cons, List.sum_cons]
          omega

/-! ## Parts -/

namespace Building

theorem start (h : HeapOk w) : Building w (w.tick.setBlock w.calls (some (.msghdr {}))) w.calls {} where
  toExtends := Extends.alloc h fun m p hm => by cases hm; cases p <;> rfl
  msghdr := by simp
  msgFlags := rfl
  new := Nat.le_refl _

theorem tick (h : Building w₀ w a m) : Building w₀ w.tick a m where
  toExtends := h.toExtends.trans (Extends.tick h.heapOk)
  msghdr := h.msghdr
  msgFlags := h.msgFlags
  new := h.new

/-- The message is changed; it names what it named before, or blocks that no message names. -/
theorem setMsghdr (h : Building w₀ w a m) {m' : Msghdr} (hf : m'.msgFlags = m.msgFlags)
    (hm' : ∀ q y, part m' q = some y → part m q = some y ∨
      (∃ b, w.heap y = some b ∧ isPart q b) ∧ ∀ a' m₁ q', w.heap a' = some (.msghdr m₁) → part m₁ q' ≠ some y) :
    Building w₀ (w.setBlock a (some (.msghdr m'))) a m' where
  heapOk := h.heapOk.setMsghdr h.msghdr hm'
  step := h.step.setBlock a _
  msghdr := by simp
  msgFlags := hf.trans h.msgFlags
  new := h.new
  old := fun x hx => by
    rw [World.setBlock_heap, Function.update_of_ne (Nat.ne_of_lt (Nat.lt_of_lt_of_le hx h.new))]
    exact h.old x hx
  oldFreed := h.oldFreed

theorem alloc (h : Building w₀ w a m) {p : Part} {b : Block} (hb : isPart p b) :
    Building w₀ (w.tick.setBlock w.calls (some b)) a m where
  toExtends := h.toExtends.trans (Extends.alloc h.heapOk fun m q hm => by subst hm; cases p <;> exact nomatch hb)
  msghdr := by
    rw [World.setBlock_heap, Function.update_of_ne (Nat.ne_of_lt (h.heapOk.lt_calls h.msghdr))]
    exact h.msghdr
  msgFlags := h.msgFlags
  new := h.new

theorem attach (h : Building w₀ w a m) {p : Part} {b : Block} (hb : isPart p b) {m' : Msghdr}
    (hf : m'.msgFlags = m.msgFlags) (hp : part m' p = some w.calls) (hq : ∀ q, q ≠ p → part m' q = part m q) :
    Building w₀ ((w.tick.setBlock w.calls (some b)).setBlock a (some (.msghdr m'))) a m' := by
  apply (h.alloc hb).setMsghdr hf
  intro q y hy
  by_cases hqp : q = p
  · rw [hqp, hp] at hy
    cases hy
    refine .inr ⟨⟨b, by simp, hqp ▸ hb⟩, ?_⟩
    intro a' m₁ q' ha' hpart
    have hne : a' ≠ w.calls := by
      rintro rfl
      rw [World.setBlock_heap, Function.update_self] at ha'
      cases ha'
      cases p <;> exact nomatch hb
    rw [World.setBlock_heap, Function.update_of_ne hne] at ha'
    obtain ⟨c, hc, -⟩ := h.heapOk.live ha' hpart
    exact absurd (h.heapOk.lt_calls hc) (Nat.lt_irrefl _)
  · exact .inl ((hq q hqp).symm.trans hy)

theorem setPart (h : Building w₀ w a m) {p : Part} {x : Addr} {b b' : Block} (hx : part m p = some x)
    (hb : w.heap x = some b) (hp : isPart p b) (hp' : isPart p b') (hnew : w₀.calls ≤ x) :
    Building w₀ (w.setBlock x (some b')) a m where
  heapOk := h.heapOk.setPart hb hp hp'
  step := h.step.setBlock x _
  msghdr := by
    rw [World.setBlock_heap, Function.update_of_ne]
    · exact h.msghdr
    · rintro rfl
      exact h.heapOk.part_ne_self h.msghdr hx
  msgFlags := h.msgFlags
  new := h.new
  old := fun y hy => by
    rw [World.setBlock_heap, Function.update_of_ne (Nat.ne_of_lt (Nat.lt_of_lt_of_le hy hnew))]
    exact h.old y hy
  oldFreed := h.oldFreed

end Building

/-! ## The functions that fill a message -/

theorem run_pxAncillaryMsgMalloc_ok (hm : w.env.pvPortMalloc w.calls = true) :
    pxAncillaryMsgMalloc.run w = .ok w.calls (w.tick.setBlock w.calls (some (.msghdr {}))) := by
  have hone : (w.tick.setBlock w.calls (some (.msghdr {}))).setBlock w.calls (some (.msghdr {})) =
      w.tick.setBlock w.calls (some (.msghdr {})) := by
    simp [World.setBlock]
  rw [pxAncillaryMsgMalloc, run_bind_ok (run_pvPortMalloc_ok hm _), run_bind_ok (run_deref_some _ _),
    run_bind_ok (run_storeMsghdr _ _ _), hone]
  rfl

theorem pxAncillaryMsgMalloc_ok (h : HeapOk w) (hm : w.env.pvPortMalloc w.calls = true) :
    ∃ w', pxAncillaryMsgMalloc.run w = .ok w.calls w' ∧ Building w w' w.calls {} ∧ w'.calls = w.calls + 1 :=
  ⟨_, run_pxAncillaryMsgMalloc_ok hm, Building.start h, rfl⟩

/-- The block is cleared through a null pointer. -/
theorem pxAncillaryMsgMalloc_null (hm : w.env.pvPortMalloc w.calls = false) :
    pxAncillaryMsgMalloc.run w = .error .null w.tick := by
  rw [pxAncillaryMsgMalloc, run_bind_ok (run_pvPortMalloc_null hm _), run_bind_error (run_deref_none _)]

/-- The message names the address `x`. -/
def NamedBy (w : World) (m : Msghdr) (x : Sockaddr) : Prop :=
  m.msgNamelen = 4 ∧ ∃ y, m.msgName = some y ∧ w.heap y = some (.sockaddr x)

theorem xAncillaryMsgFillName_ok (h : Building w₀ w a m) (xAddr : IPAddress) (usPort : UInt16) (xFamily : UInt8) :
    ∃ r w' m', (xAncillaryMsgFillName a (some xAddr) usPort xFamily).run w = .ok r w' ∧ Building w₀ w' a m' ∧
      (w.env.pvPortMalloc w.calls = true → NamedBy w' m' ⟨4, xFamily, usPort, 0, xAddr⟩) ∧
      m'.msgIov = m.msgIov ∧ w'.calls = w.calls + 1 := by
  cases hm : w.env.pvPortMalloc w.calls with
  | true =>
      have hload := (h.alloc (p := .name) (b := .sockaddr ⟨4, xFamily, usPort, 0, xAddr⟩) rfl).msghdr
      refine ⟨true, _, { m with msgName := some w.calls, msgNamelen := 4 }, ?_,
        h.attach (p := .name) (b := .sockaddr ⟨4, xFamily, usPort, 0, xAddr⟩) rfl rfl rfl ?_,
        fun _ => ⟨rfl, w.calls, rfl, ?_⟩, rfl, rfl⟩
      · simp only [xAncillaryMsgFillName]
        rw [run_bind_ok (run_pvPortMalloc_ok hm _)]
        dsimp only
        rw [run_bind_ok (run_loadMsghdr hload), run_bind_ok (run_storeMsghdr _ _ _)]
        rfl
      · intro q hq
        cases q with
        | iov => rfl
        | name => exact absurd rfl hq
        | control => rfl
      · rw [World.setBlock_heap, Function.update_of_ne (Nat.ne_of_gt (h.heapOk.lt_calls h.msghdr)),
          World.setBlock_heap, Function.update_self]
  | false =>
      refine ⟨false, _, m, ?_, h.tick, fun hm' => absurd hm' (by simp), rfl, rfl⟩
      simp only [xAncillaryMsgFillName]
      rw [run_bind_ok (run_pvPortMalloc_null hm _)]
      rfl

theorem xAncillaryMsgFillPayload_ok (h : Building w₀ w a m) (hm : w.env.pvPortMalloc w.calls = true) (p : Ptr)
    (n : Nat) :
    ∃ w', (xAncillaryMsgFillPayload a p n).run w = .ok true w' ∧
      Building w₀ w' a { m with msgIov := some w.calls, msgIovlen := 1 } ∧
      (∀ x, NamedBy w m x → NamedBy w' { m with msgIov := some w.calls, msgIovlen := 1 } x) ∧
      w'.heap w.calls = some (.iovec [⟨p, n⟩]) := by
  have hload := (h.alloc (p := .iov) (b := .iovec [⟨p, n⟩]) rfl).msghdr
  refine ⟨_, ?_, h.attach (p := .iov) (b := .iovec [⟨p, n⟩]) rfl rfl rfl ?_, ?_, ?_⟩
  · rw [xAncillaryMsgFillPayload, run_bind_ok (run_pvPortMalloc_ok hm _)]
    dsimp only
    rw [run_bind_ok (run_loadMsghdr hload), run_bind_ok (run_storeMsghdr _ _ _)]
    rfl
  · intro q hq
    cases q with
    | iov => exact absurd rfl hq
    | name => rfl
    | control => rfl
  · rintro x ⟨hlen, y, hname, hy⟩
    -- the name is another block than the message, and older than the vector
    have hya : y ≠ a := by
      rintro rfl
      rw [h.msghdr] at hy
      cases hy
    refine ⟨hlen, y, hname, ?_⟩
    rw [World.setBlock_heap, Function.update_of_ne hya, World.setBlock_heap,
      Function.update_of_ne (Nat.ne_of_lt (h.heapOk.lt_calls hy))]
    exact hy
  · rw [World.setBlock_heap, Function.update_of_ne (Nat.ne_of_gt (h.heapOk.lt_calls h.msghdr)), World.setBlock_heap,
      Function.update_self]

theorem xAncillaryMsgFillPayload_null (hm : w.env.pvPortMalloc w.calls = false) (p : Ptr) (n : Nat) :
    (xAncillaryMsgFillPayload a p n).run w = .ok false w.tick := by
  rw [xAncillaryMsgFillPayload, run_bind_ok (run_pvPortMalloc_null hm _)]
  rfl

theorem Building.clearControl (h : Building w₀ w a m) :
    Building w₀ (w.setBlock a (some (.msghdr { m with msgControl := none, msgControllen := 0 }))) a
      { m with msgControl := none, msgControllen := 0 } := by
  refine h.setMsghdr rfl ?_
  intro q y hy
  cases q with
  | iov => exact .inl hy
  | name => exact .inl hy
  | control => exact nomatch hy

theorem prvClearControl_ok (h : Building w₀ w a m) :
    ∃ w' m', (prvClearControl a).run w = .ok () w' ∧ Building w₀ w' a m' ∧ m'.msgIov = m.msgIov ∧
      w'.calls = w.calls := by
  refine ⟨_, _, ?_, h.clearControl, rfl, rfl⟩
  rw [prvClearControl, run_bind_ok (run_loadMsghdr h.msghdr)]
  rfl

theorem run_xAncillaryMsgControlFill_ok (hm : w.env.pvPortMalloc w.calls = true) (ha : w.heap a = some (.msghdr m))
    (hne : a ≠ w.calls) {cs : List ControlMsg} (hcs : cs ≠ []) :
    ∃ junk bs, (xAncillaryMsgControlFill a cs).run w =
      .ok true (((w.tick.setBlock w.calls (some (.control junk))).setBlock a (some (.msghdr
        { m with msgControl := some w.calls, msgControllen := uxControlSpace cs }))).setBlock w.calls
          (some (.control bs))) := by
  generalize hj : (List.range (uxControlSpace cs)).map w.env.junk = junk
  have hfirst : cmsghdrSize ≤ uxControlSpace cs := by
    cases cs with
    | nil => exact absurd rfl hcs
    | cons c cs =>
        simp only [uxControlSpace, List.map_cons, List.sum_cons, cmsgSpace, cmsgAlign, cmsghdrSize]
        omega
  obtain ⟨bs, hbs⟩ := prvPackControl_isSome (n := uxControlSpace cs) cs junk 0 (by omega)
  have ha' : (w.tick.setBlock w.calls (some (.control junk))).heap a = some (.msghdr m) := by
    simpa [hne] using ha
  refine ⟨junk, bs, ?_⟩
  rw [xAncillaryMsgControlFill]
  dsimp only
  rw [run_bind_ok (EStateM.run_get w), run_bind_ok (run_pvPortMalloc_ok hm _)]
  dsimp only
  rw [hj, run_bind_ok (run_loadMsghdr ha'), run_bind_ok (run_storeMsghdr _ _ _), if_pos hfirst, hbs]
  rfl

theorem run_xAncillaryMsgControlFill_null (hm : w.env.pvPortMalloc w.calls = false)
    (ha : w.heap a = some (.msghdr m)) (cs : List ControlMsg) :
    (xAncillaryMsgControlFill a cs).run w =
      .ok false (w.tick.setBlock a (some (.msghdr { m with msgControl := none, msgControllen := 0 }))) := by
  have ha' : w.tick.heap a = some (.msghdr m) := ha
  rw [xAncillaryMsgControlFill]
  dsimp only
  rw [run_bind_ok (EStateM.run_get w), run_bind_ok (run_pvPortMalloc_null hm _)]
  dsimp only
  rw [run_bind_ok (run_loadMsghdr ha'), run_bind_ok (run_storeMsghdr _ _ _)]
  rfl

theorem xAncillaryMsgControlFill_ok (h : Building w₀ w a m) (cs : List ControlMsg)
    (hcs : cs ≠ []) :
    ∃ r w' m', (xAncillaryMsgControlFill a cs).run w = .ok r w' ∧ Building w₀ w' a m' ∧ m'.msgIov = m.msgIov ∧
      w'.calls = w.calls + 1 := by
  cases hm : w.env.pvPortMalloc w.calls with
  | true =>
      have hne := Nat.ne_of_lt (h.heapOk.lt_calls h.msghdr)
      obtain ⟨junk, bs, hrun⟩ := run_xAncillaryMsgControlFill_ok hm h.msghdr hne hcs
      have hatt : Building w₀ ((w.tick.setBlock w.calls (some (.control junk))).setBlock a (some (.msghdr
          { m with msgControl := some w.calls, msgControllen := uxControlSpace cs }))) a
          { m with msgControl := some w.calls, msgControllen := uxControlSpace cs } := by
        refine h.attach (p := .control) (b := .control junk) rfl rfl rfl ?_
        intro q hq
        cases q with
        | iov => rfl
        | name => rfl
        | control => exact absurd rfl hq
      have hblk : ((w.tick.setBlock w.calls (some (.control junk))).setBlock a (some (.msghdr
          { m with msgControl := some w.calls, msgControllen := uxControlSpace cs }))).heap w.calls =
            some (.control junk) := by
        rw [World.setBlock_heap, Function.update_of_ne hne.symm, World.setBlock_heap, Function.update_self]
      exact ⟨true, _, _, hrun, hatt.setPart (p := .control) rfl hblk rfl rfl h.step.calls_le, rfl, rfl⟩
  | false =>
      exact ⟨false, _, _, run_xAncillaryMsgControlFill_null hm h.msghdr cs, h.tick.clearControl, rfl, rfl⟩

theorem prvAncillaryMsgControlFillForRx_ok (h : Building w₀ w a m) {t : Addr} {s : TSNSocket}
    (hs : w.heap t = some (.tsnSocket s)) (htb : TimebaseOk w) :
    ∃ r w' m', (prvAncillaryMsgControlFillForRx a t).run w = .ok r w' ∧ Building w₀ w' a m' ∧ m'.msgIov = m.msgIov ∧
      w'.calls = w.calls + if rxTimestamps w s then 1 else 0 := by
  rw [prvAncillaryMsgControlFillForRx, run_bind_ok (run_loadTsnSocket hs), run_bind_ok (EStateM.run_get w)]
  cases hts : rxTimestamps w s with
  | true =>
      have hset : w.bTimebaseHandleSet = true := by
        apply htb
        simp only [rxTimestamps, Bool.and_eq_true, beq_iff_eq] at hts
        exact hts.2
      have hts' := hts
      unfold rxTimestamps at hts'
      obtain ⟨r, w', m', hrun, hB, hi, hcalls⟩ := xAncillaryMsgControlFill_ok h
        [⟨freertosSolSocket, freertosScmTimestamping, scmTimestamping (w.env.fnGetTime w.calls)⟩]
        (List.cons_ne_nil _ _)
      have hacq : vTimestampAcquireSoftware.run w = .ok (w.env.fnGetTime w.calls) w := by
        simp -implicitDefEqProofs [vTimestampAcquireSoftware, hset]
      rw [if_pos hts', run_bind_ok hacq, run_bind_ok hrun]
      cases r with
      | true => exact ⟨1, w', m', rfl, hB, hi, hcalls⟩
      | false => exact ⟨0, w', m', rfl, hB, hi, hcalls⟩
  | false =>
      have hts' := hts
      unfold rxTimestamps at hts'
      obtain ⟨w', m', hrun, hB, hi, hcalls⟩ := prvClearControl_ok h
      rw [hts']
      simp only [Bool.false_eq_true, if_false]
      rw [run_bind_ok hrun]
      exact ⟨0, w', m', rfl, hB, hi, hcalls⟩

/-! ## The whole message -/

theorem prvFillName_ok (h : Building w₀ w a m) (f : ParsedFrame) :
    ∃ w' m', (prvFillName a f).run w = .ok () w' ∧ Building w₀ w' a m' ∧
      (f.usFrameType = ipIPv4FrameType → w.env.pvPortMalloc w.calls = true →
        NamedBy w' m' ⟨4, freertosAfInet, f.usDestinationPort, 0, f.xDestinationAddr⟩) ∧ m'.msgIov = m.msgIov ∧
      w'.calls = w.calls + if f.usFrameType = ipIPv4FrameType ∨ f.usFrameType = ipIPv6FrameType then 1 else 0 := by
  by_cases h4 : f.usFrameType = ipIPv4FrameType
  · obtain ⟨r, w', m', hrun, hB, hname, hi, hcalls⟩ :=
      xAncillaryMsgFillName_ok h f.xDestinationAddr f.usDestinationPort freertosAfInet
    refine ⟨w', m', ?_, hB, fun _ => hname, hi, by simpa [h4] using hcalls⟩
    rw [prvFillName, if_pos h4, run_bind_ok hrun]
    rfl
  · by_cases h6 : f.usFrameType = ipIPv6FrameType
    · obtain ⟨r, w', m', hrun, hB, -, hi, hcalls⟩ :=
        xAncillaryMsgFillName_ok h f.xDestinationAddr f.usDestinationPort freertosAfInet6
      refine ⟨w', m', ?_, hB, fun h4' => absurd h4' h4, hi, by simpa [h6] using hcalls⟩
      rw [prvFillName, if_neg h4, if_pos h6, run_bind_ok hrun]
      rfl
    · refine ⟨w, m, ?_, h, fun h4' => absurd h4' h4, rfl, by simp [h4, h6]⟩
      rw [prvFillName, if_neg h4, if_neg h6]
      rfl

/-- The message of the frame `f` in `b`, as it was built for a socket. It is complete when the two allocations that count
succeed. -/
structure MessageBuilt (w w' : World) (b : BufId) (s : TSNSocket) (f : ParsedFrame) (m : Msghdr) : Prop where
  building : Building w w' w.calls m
  named : f.usFrameType = ipIPv4FrameType → (∀ n, w.env.pvPortMalloc n = true) →
    NamedBy w' m ⟨4, freertosAfInet, f.usDestinationPort, 0, f.xDestinationAddr⟩
  vector : if w.env.pvPortMalloc (iovecCall w s f) then
      m.msgIovlen = 1 ∧ ∃ i, m.msgIov = some i ∧
        w'.heap i = some (.iovec [⟨(w.bufs b).pucEthernetBuffer, (w.bufs b).xDataLength⟩])
    else m.msgIov = none

theorem prvBuildMsgh_ok (h : HeapOk w) (htb : TimebaseOk w) {t : Addr} {s : TSNSocket}
    (hs : w.heap t = some (.tsnSocket s)) (b : BufId) (f : ParsedFrame)
    (hm : w.env.pvPortMalloc w.calls = true) :
    ∃ w' m, (prvBuildMsgh b t f).run w = .ok w.calls w' ∧ MessageBuilt w w' b s f m := by
  obtain ⟨w₁, h₁, hB₁, hc₁⟩ := pxAncillaryMsgMalloc_ok h hm
  have heq₁ := hB₁.step.eq
  have hs₁ : w₁.heap t = some (.tsnSocket s) := by rw [hB₁.old t (h.lt_calls hs)]; exact hs
  have htb₁ : TimebaseOk w₁ := by rw [heq₁]; exact htb
  have hts : rxTimestamps w₁ s = rxTimestamps w s := by rw [heq₁]; rfl
  obtain ⟨r, w₂, m₂, h₂, hB₂, hi₂, hc₂⟩ := prvAncillaryMsgControlFillForRx_ok hB₁ hs₁ htb₁
  obtain ⟨w₃, m₃, h₃, hB₃, hn₃, hi₃, hc₃⟩ := prvFillName_ok hB₂ f
  have hb : w₃.bufs b = w.bufs b := by rw [hB₃.step.bufs]
  have hc : w₃.calls = iovecCall w s f := by rw [hc₃, hc₂, hc₁, hts]; rfl
  have henv : w₃.env = w.env := by rw [hB₃.step.eq]
  have henv₂ : w₂.env = w.env := by rw [hB₂.step.eq]
  have hrun : (prvBuildMsgh b t f).run w =
      (do let _ ← xAncillaryMsgFillPayload w.calls (w.bufs b).pucEthernetBuffer (w.bufs b).xDataLength
          return w.calls : M Addr).run w₃ := by
    rw [prvBuildMsgh, run_bind_ok h₁, run_bind_ok h₂, run_bind_ok h₃, run_bind_ok (run_loadBuf _ _), hb]
  cases hi : w.env.pvPortMalloc (iovecCall w s f) with
  | true =>
      obtain ⟨w₄, h₄, hB₄, hn₄, hv⟩ := xAncillaryMsgFillPayload_ok hB₃ (by rw [henv, hc]; exact hi)
        (w.bufs b).pucEthernetBuffer (w.bufs b).xDataLength
      refine ⟨w₄, _, ?_, hB₄, fun h4 hall => hn₄ _ (hn₃ h4 (by rw [henv₂]; exact hall _)), ?_⟩
      · rw [hrun, run_bind_ok h₄]
        rfl
      · rw [if_pos hi]
        exact ⟨rfl, w₃.calls, rfl, hv⟩
  | false =>
      refine ⟨w₃.tick, m₃, ?_, hB₃.tick, fun _ hall => absurd ((hall _).symm.trans hi) (by decide), ?_⟩
      · rw [hrun, run_bind_ok (xAncillaryMsgFillPayload_null (by rw [henv, hc]; exact hi) _ _)]
        rfl
      · rw [if_neg (by rw [hi]; decide), hi₃, hi₂]

theorem prvBuildMsgh_null (b : BufId) (t : Addr) (f : ParsedFrame) (hm : w.env.pvPortMalloc w.calls = false) :
    (prvBuildMsgh b t f).run w = .error .null w.tick := by
  rw [prvBuildMsgh, run_bind_error (pxAncillaryMsgMalloc_null hm)]

end FreeRtosTsn.Packet
