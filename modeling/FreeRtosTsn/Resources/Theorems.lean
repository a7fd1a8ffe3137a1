import FreeRtosTsn.Resources.Lemmas.Reception
import FreeRtosTsn.Resources.Lemmas.Timestamps
import FreeRtosTsn.Packet.Theorems

/-!
# Main results about buffers, messages and sockets
-/

namespace FreeRtosTsn.Resources

open Lib Kernel Packet Scheduler

/-! ## Delivery -/

/-- **Delivery ownership**: a delivery that ends leaves buffer and message with one owner each exactly when the frame is
not ignored and the message has somewhere to go. -/
theorem delivery_settles {cfg : Config} {w w' : World} {xItem : NetworkQueueItem} {xUsingIPTask : Bool}
    (hown : ItemOwns w xItem) (hrun : (prvDeliverFrame cfg xItem xUsingIPTask).run w = .ok () w') :
    Settled xItem w w' ↔ Settles cfg w xItem := by
  cases hb : xItem.pxBuf with
  | none =>
      rw [prvDeliverFrame, hb] at hrun
      cases hrun
      simp only [Settles, hb]
      exact settled_noBuf hown hb
  | some b =>
      simp only [Settles, hb]
      by_cases hd : Deliverable w b
      · obtain ⟨w₁, hfs, -, ⟨ip, hip⟩, heq⟩ := run_prvDeliverFrame cfg hb hd xUsingIPTask
        have hown₁ := hown.frame hfs hb
        have hport : (w₁.bufs b).usBoundPort = (w.bufs b).usBoundPort := by rw [hip]
        have htsn : w₁.xTSNBoundUDPSocketList = w.xTSNBoundUDPSocketList := by rw [hfs.eq]
        have hudp : w₁.xBoundUDPSocketsList = w.xBoundUDPSocketsList := by rw [hfs.eq]
        rw [settled_frame hfs, and_iff_right hd]
        cases hi : inspected w b with
        | none =>
            rw [hi] at heq
            cases heq.symm.trans hrun
            exact settled_givenAway hown₁ hb (.release w₁ b)
        | some ucProto =>
            rw [hi] at heq
            rw [prvDispatchFrame_settled hown₁ hb (heq.symm.trans hrun), hport, htsn, hudp]
            simp only [hasErrRoom_frame hfs]
            cases prvLookup (w.bufs b).usBoundPort w.xTSNBoundUDPSocketList <;> rfl
      · rw [prvDeliverFrame_ignored hb (hown.pucEthernetBuffer b hb) hd] at hrun
        cases hrun
        exact iff_of_false (not_settled_ignored hown hb) fun h => hd h.1

/-- A datagram with its message, for the TSN socket that is bound to port 80. -/
def boundWorld : World :=
  { idleWorld with bufs := fun b => ⟨.eth b 0, 60, some 0, some 0, 0, swap16 80, .ipv4 0⟩ }

theorem boundWorld_itemOwns : ItemOwns boundWorld (rxItem 0 (some 1)) where
  heapOk := ⟨waitingWorld_ok.heapOk.toMsgHeap, waitingWorld_ok.heapOk.fresh, fun _ h => (nomatch h), List.nodup_nil⟩
  pucEthernetBuffer _ h := by
    cases h
    rfl
  buf _ _ p := by cases p <;> rfl
  msghdr _ h := by
    cases h
    exact ⟨_, rfl⟩
  msgh _ _ p := by cases p <;> rfl

/-- The socket gets the datagram and its message. -/
theorem delivery_settles_bound : ∃ w', (prvDeliverFrame {} (rxItem 0 (some 1)) false).run boundWorld = .ok () w' ∧
    waiting w' 0 = [0] ∧ Settled (rxItem 0 (some 1)) boundWorld w' := by
  have hcond : Settles {} boundWorld (rxItem 0 (some 1)) := by
    refine ⟨⟨rfl, by decide, by decide, by decide⟩, fun a ha s m _ hm hflag => ?_⟩
    cases ha
    cases hm
    exact absurd hflag (by decide)
  have hrun : (prvDeliverFrame {} (rxItem 0 (some 1)) false).run boundWorld = .ok () _ := rfl
  exact ⟨_, hrun, rfl, (delivery_settles boundWorld_itemOwns hrun).mpr hcond⟩

/-- The TSN socket was closed before the delivery. -/
def strandedWorld : World := { boundWorld with xTSNBoundUDPSocketList := [] }

theorem strandedWorld_itemOwns : ItemOwns strandedWorld (rxItem 0 (some 1)) :=
  ⟨⟨boundWorld_itemOwns.heapOk.toMsgHeap, boundWorld_itemOwns.heapOk.fresh, fun _ h => (nomatch h), List.nodup_nil⟩,
    boundWorld_itemOwns.pucEthernetBuffer, fun _ _ p => by cases p <;> rfl, boundWorld_itemOwns.msghdr,
    fun _ _ p => by cases p <;> rfl⟩

/-- Its message is leaked. -/
theorem delivery_leaks :
    ItemOwns strandedWorld (rxItem 0 (some 1)) ∧
      ∃ w', (prvDeliverFrame {} (rxItem 0 (some 1)) false).run strandedWorld = .ok () w' ∧
        ¬Settled (rxItem 0 (some 1)) strandedWorld w' := by
  refine ⟨strandedWorld_itemOwns, _, rfl, ?_⟩
  apply not_settled_of_leak rfl
  intro p
  cases p <;> rfl

/-! ## Reception -/

/-- **Allocation balance of a reception**: it is kept exactly when the call ends before it has allocated anything. -/
theorem reception_balanced {cfg : Config} {w w' : World} {b : BufId} {uxTimeout : Nat} {r : Bool} (h : HeapOk w)
    (htb : TimebaseOk w) (hp : (w.bufs b).pucEthernetBuffer = .eth b 0)
    (hrun : (xSendEventStructToTsnController cfg .eNetworkRxEvent b uxTimeout).run w = .ok r w') :
    Balanced b r w w' ↔ AllocatesNothing w b := by
  obtain ⟨f, w₁, hparse, hfs, hf⟩ := run_prvParseFrame_port hp
  rw [AllocatesNothing, ← hf]
  by_cases h0 : f.usDestinationPort = 0
  · rw [balanced_plain h hparse hfs (.inl h0) hrun]
    simp [h0]
  · cases hl : prvLookup f.usDestinationPort w.xTSNBoundUDPSocketList with
    | some k =>
        refine iff_of_false (not_balanced_tsn h htb hparse hfs h0 hl hrun) ?_
        rintro ⟨hnone, -⟩
        exact absurd (hnone h0) (Option.some_ne_none k)
    | none =>
        cases hk : prvLookup f.usDestinationPort w.xBoundUDPSocketsList with
        | some k =>
            have hsome : prvLookup f.usDestinationPort w.xBoundUDPSocketsList ≠ none := by simp [hk]
            rw [balanced_plain h hparse hfs (.inr ⟨hl, hsome⟩) hrun]
            simp
        | none =>
            have hl₁ : prvLookup f.usDestinationPort w₁.xTSNBoundUDPSocketList = none := by
              rw [hfs.eq]
              exact hl
            have hk₁ : prvLookup f.usDestinationPort w₁.xBoundUDPSocketsList = none := by
              rw [hfs.eq]
              exact hk
            rw [xSendEventStructToTsnController, if_pos rfl, run_bind_ok (prvHandleReceive_unbound hparse h0 hl₁ hk₁)] at hrun
            cases hrun
            refine iff_of_true (balanced_unbound hfs) ?_
            simp [h0]

/-- A TCP segment for a port that no socket is bound to. -/
theorem reception_balanced_unbound :
    ∃ w', (xSendEventStructToTsnController {} .eNetworkRxEvent 0 0).run tcpWorld = .ok false w' ∧
      Balanced 0 false tcpWorld w' := by
  have hport : receivedPort tcpWorld 0 ≠ 0 := by decide
  have hcond : AllocatesNothing tcpWorld 0 := ⟨fun _ => rfl, fun h => absurd (h.resolve_left hport) (by decide)⟩
  have hrun : (xSendEventStructToTsnController {} .eNetworkRxEvent 0 0).run tcpWorld =
      .ok false (lastState ((xSendEventStructToTsnController {} .eNetworkRxEvent 0 0).run tcpWorld)) := rfl
  exact ⟨_, hrun, (reception_balanced (rxWorld_heapOk _) (fun h => nomatch h) rfl hrun).mpr hcond⟩

/-- A node with a queue, which receives an ARP frame. -/
def queuedArpWorld : World := { arpWorld with pxNetworkQueueList := [⟨0, 0, .eSendRecv, [], prvAlwaysTrue⟩] }

/-- The frame is accepted, and the block of its item leaked. -/
theorem reception_leaks :
    ∃ w', (xSendEventStructToTsnController {} .eNetworkRxEvent 0 0).run queuedArpWorld = .ok true w' ∧
      ¬Balanced 0 true queuedArpWorld w' := by
  have hok : HeapOk queuedArpWorld :=
    ⟨(rxWorld_heapOk [(12, 8), (13, 6)]).toMsgHeap, fun _ _ => rfl, fun _ h => (nomatch h), List.nodup_nil⟩
  have hp : (queuedArpWorld.bufs 0).pucEthernetBuffer = .eth 0 0 := rfl
  obtain ⟨f, w₁, hparse, hfs, hf⟩ := run_prvParseFrame_port hp
  have h0 : f.usDestinationPort = 0 := hf.trans (by decide)
  have hrun : (xSendEventStructToTsnController {} .eNetworkRxEvent 0 0).run queuedArpWorld =
      .ok true (lastState ((xSendEventStructToTsnController {} .eNetworkRxEvent 0 0).run queuedArpWorld)) := rfl
  refine ⟨_, hrun, ?_⟩
  rw [balanced_plain hok hparse hfs (.inl h0) hrun]
  exact Bool.noConfusion

/-! ## Bound sockets -/

/-- **Table of bound sockets**: it is exact in every state reached, and a next call ends and leaves it exact if and only
if it does not close a socket before it is bound. -/
theorem bound_sockets_exact {cfg : Config} {w₀ w : World} {opened : List Addr} (h₀ : StartsSockets w₀)
    (hrun : SocketRun cfg w₀ w opened) :
    TableExact w opened ∧ ∀ c, SocketCall.Valid opened c →
      ((∃ opened' w', (c.run cfg opened).run w = .ok opened' w' ∧ TableExact w' opened') ↔ c.ClosesBound w) := by
  have hinv := SocketsInv.run h₀ hrun
  refine ⟨hinv.tableExact, fun c hv => ⟨?_, ?_⟩⟩
  · rintro ⟨opened', w', hcall, -⟩
    by_contra hc
    cases (hinv.call_faults hc).symm.trans hcall
  · intro hc
    obtain ⟨opened', w', hcall, hinv'⟩ := hinv.call hv hc
    exact ⟨opened', w', hcall, hinv'.tableExact⟩

theorem boot_startsSockets (env : Env) : StartsSockets (World.boot env) := ⟨fun _ _ => rfl, fun _ _ => rfl, rfl⟩

def socketWorld (cfg : Config) : World :=
  lastState ((SocketCall.run cfg [] (.socket false freertosSockDgram)).run (World.boot {}))

theorem socketWorld_run (cfg : Config) : SocketRun cfg (World.boot {}) (socketWorld cfg) [0] := by
  have hv : (SocketCall.socket false freertosSockDgram).Valid [] := trivial
  exact .call .start hv rfl

/-- The socket is bound to port 80. -/
theorem bound_sockets_exact_bind :
    ∃ w, SocketRun {} (World.boot {}) w [0] ∧ w.xTSNBoundUDPSocketList = [(swap16 80, 0)] ∧ TableExact w [0] := by
  have hv : (SocketCall.bind 0 (swap16 80)).Valid [0] := List.mem_singleton.mpr rfl
  have hcall : ((SocketCall.bind 0 (swap16 80)).run {} [0]).run (socketWorld {}) =
      .ok [0] (lastState (((SocketCall.bind 0 (swap16 80)).run {} [0]).run (socketWorld {}))) := rfl
  have hrun := SocketRun.call (socketWorld_run {}) hv hcall
  exact ⟨_, hrun, rfl, (bound_sockets_exact (boot_startsSockets {}) hrun).1⟩

/-- A socket that is closed before it is bound is in no list. -/
theorem bound_sockets_close_faults :
    SocketRun {} (World.boot {}) (socketWorld {}) [0] ∧ (SocketCall.closesocket 0).Valid [0] ∧
      ¬∃ opened w', ((SocketCall.closesocket 0).run {} [0]).run (socketWorld {}) = .ok opened w' := by
  refine ⟨socketWorld_run {}, List.mem_singleton.mpr rfl, ?_⟩
  rintro ⟨opened, w', h⟩
  have hfault : ((SocketCall.closesocket 0).run {} [0]).run (socketWorld {}) = .error .heap (socketWorld {}) := rfl
  cases hfault.symm.trans h

/-! ## Live resources -/

/-- **Resource balance**: as long as all calls keep the balance, what is live is what is reached from the open sockets,
and after a next call that ends it still is if and only if this call keeps the balance too. -/
theorem resources_balanced {cfg : Config} {w₀ w : World} {opened : List Addr} (h₀ : StartsEmpty w₀)
    (hrun : LifecycleRun cfg w₀ w opened) :
    LiveExact w opened ∧ ∀ c, LifecycleCall.Valid opened c → ∀ opened' w',
      (c.run cfg opened).run w = .ok opened' w' → (LiveExact w' opened' ↔ c.Keeps cfg w) := by
  have hinv := LifeInv.run h₀ hrun
  refine ⟨hinv.live, fun c hv opened' w' hcall => ?_⟩
  obtain ⟨hkeep, hlose⟩ := hinv.call hv hcall
  constructor
  · intro hlive
    by_contra hk
    exact hlose hk hlive
  · intro hk
    exact (hkeep hk).live

theorem boot_startsEmpty (env : Env) : StartsEmpty (World.boot env) := ⟨fun _ => rfl, fun _ => rfl, rfl, rfl⟩

/-- One socket, with its block, its base socket and its error queue. -/
theorem resources_balanced_socket :
    LiveExact (socketWorld {}) [0] ∧ (socketWorld {}).heap 0 ≠ none ∧ (socketWorld {}).baseSockets 1 ≠ none ∧
      (socketWorld {}).errQueueHandles = [2] := by
  have hv : (LifecycleCall.sockets (.socket false freertosSockDgram)).Valid [] := trivial
  have hk : (LifecycleCall.sockets (.socket false freertosSockDgram)).Keeps {} (World.boot {}) :=
    fun hfail => absurd hfail.2.2.2 Bool.noConfusion
  have hrun : LifecycleRun {} (World.boot {}) (socketWorld {}) [0] := .call .start hv hk rfl
  exact ⟨(resources_balanced (boot_startsEmpty {}) hrun).1, Option.some_ne_none _, Option.some_ne_none _, rfl⟩

/-- There is no memory for an error queue. -/
def noQueueEnv : Env := { xQueueCreate := fun _ => false }

/-- A socket that cannot be created leaves its base socket. -/
theorem resources_socket_leaks :
    (LifecycleCall.sockets (.socket false freertosSockDgram)).Valid [] ∧
      ∃ w', (LifecycleCall.run {} [] (.sockets (.socket false freertosSockDgram))).run (World.boot noQueueEnv) =
        .ok [] w' ∧ ¬LiveExact w' [] := by
  refine ⟨trivial, _, rfl, fun hlive => ?_⟩
  obtain ⟨t, ht, -⟩ := (hlive.baseSockets 1).mp (Option.some_ne_none _)
  cases ht

/-! ## Timestamps of sent frames -/

/-- **Transmit timestamps go to the sender** in every interleaving in which each report finds the socket of its frame
and room, and after a next step they still do if and only if this holds for it too. -/
theorem timestamps_exact {cfg : Config} {w₀ : World} {shared : List BufId} {s : TxState}
    (hfresh : ∀ y, w₀.calls ≤ y → w₀.heap y = none) (hrun : TxRun cfg ⟨w₀, none, shared, []⟩ s) :
    TimestampsExact w₀ s ∧ ∀ a s', TxStep cfg a s s' → (TimestampsExact w₀ s' ↔ a.FindsSender cfg s) := by
  have hinv := TxInv.run hfresh hrun
  refine ⟨hinv.holds, fun a s' hstep => ?_⟩
  obtain ⟨hfinds, hmisses⟩ := hinv.step hstep
  constructor
  · intro hexact
    by_contra hf
    exact hmisses hf hexact
  · intro hf
    exact (hfinds hf).holds

/-- Two sockets that want timestamps, bound to the ports 80 and 81, and a frame from port 80. -/
def reportingWorld : World :=
  { World.boot {} with
    calls := 2
    bTimebaseHandleSet := true
    bufs := fun b => ⟨.eth b 0, 60, some 0, some 0, 0, swap16 80, .ipv4 0⟩
    heap := fun a => if a < 2 then some (.tsnSocket ⟨0, a, 0, 0, 0, 0, sofTimestampingTxSoftware⟩) else none
    baseSockets := fun _ => some idleSocket
    xTSNBoundUDPSocketList := [(swap16 80, 0), (swap16 81, 1)] }

theorem reportingWorld_fresh (y : Addr) (hy : reportingWorld.calls ≤ y) : reportingWorld.heap y = none :=
  if_neg (Nat.not_lt.mpr hy)

def sentState (cfg : Config) : TxState :=
  ⟨lastState ((prvGiveToDriver cfg 0 0 true).run reportingWorld), some (0, swap16 80), [0], []⟩

theorem sentState_run : TxRun {} ⟨reportingWorld, none, [], []⟩ (sentState {}) := by
  have hrun : (prvGiveToDriver {} 0 0 true).run reportingWorld = .ok true (sentState {}).w := rfl
  exact .step (a := .transmit) .start trivial (.transmit List.not_mem_nil hrun)

/-- The report follows at once. -/
theorem timestamps_exact_once :
    ∃ s, TxRun {} ⟨reportingWorld, none, [], []⟩ s ∧ TimestampsExact reportingWorld s ∧
      s.w.errQueues 0 = [3] ∧ s.w.errQueues 1 = [] := by
  have hrun : (prvTimestampSent {} 0).run (sentState {}).w =
      .ok () (lastState ((prvTimestampSent {} 0).run (sentState {}).w)) := rfl
  have hfinds : TxAction.FindsSender {} (sentState {}) .report := by
    intro b usBoundPort hpending
    cases hpending
    refine ⟨rfl, fun q hq => ?_⟩
    cases hq
    decide
  have hreported := TxRun.step sentState_run hfinds (.report hrun)
  exact ⟨_, hreported, (timestamps_exact reportingWorld_fresh hreported).1, rfl, rfl⟩

/-- Another task has obtained the descriptor for a frame from port 81. -/
def reusedState (cfg : Config) : TxState :=
  ⟨rewritten (sentState cfg).w 0 ⟨.eth 0 0, 60, some 0, some 0, 0, swap16 81, .ipv4 0⟩ ((sentState cfg).w.mem 0) 60,
    some (0, swap16 80), [0], []⟩

/-- The timestamp goes to the socket that is bound to port 81. -/
theorem timestamps_misdirected :
    TxRun {} ⟨reportingWorld, none, [], []⟩ (reusedState {}) ∧
      ∃ s, TxStep {} .report (reusedState {}) s ∧ s.w.errQueues 0 = [] ∧ s.w.errQueues 1 = [3] ∧
        ¬TimestampsExact reportingWorld s := by
  have hrun : (prvTimestampSent {} 0).run (reusedState {}).w =
      .ok () (lastState ((prvTimestampSent {} 0).run (reusedState {}).w)) := rfl
  refine ⟨.step (a := .rewrite) sentState_run trivial (.rewrite _ _ _ (List.mem_singleton_self 0)), _, .report hrun,
    rfl, rfl, fun hexact => ?_⟩
  exact List.cons_ne_nil _ _ (hexact.errQueues 1)

end FreeRtosTsn.Resources
