import FreeRtosTsn.Packet.Lemmas.Output
import FreeRtosTsn.Packet.Lemmas.Forward
import FreeRtosTsn.Packet.Lemmas.Node
import FreeRtosTsn.Packet.Lemmas.Waiting
import FreeRtosTsn.Packet.Lemmas.Received
import FreeRtosTsn.Packet.Lemmas.Arrive
import FreeRtosTsn.Packet.Lemmas.Bounds

/-!
# Main results of the packet paths
-/

namespace FreeRtosTsn.Packet

open Lib Kernel Scheduler

/-! ## A node with received frames -/

/-- A node that has just booted. Every buffer holds a received frame of 60 bytes, of which a few are given and the
rest are zero. -/
def rxWorld (bytes : List (Nat × UInt8)) : World :=
  { World.boot { junk := fun i => (bytes.lookup i).getD 0 } with
    bufs := fun b => ⟨.eth b 0, 60, some 0, some 0, 0, 0, .ipv4 0⟩ }

theorem rxWorld_heapOk (bytes : List (Nat × UInt8)) : HeapOk (rxWorld bytes) where
  live h := nomatch h
  owner h := nomatch h
  fresh _ _ := rfl
  freed _ h := nomatch h
  freedOnce := List.nodup_nil

/-- An ARP frame. -/
def arpWorld : World := rxWorld [(12, 8), (13, 6)]

/-- A TCP segment over IPv4, for port 80. -/
def tcpWorld : World := rxWorld [(12, 8), (23, 6), (37, 80)]

/-! ## Tags -/

/-- Where tags were inserted, their number is not what the strip reports. -/
theorem TagsUndone.none_inserted {cfg : Config} {c : NetworkInterfaceConfig} {w w₁ w₂ : World} {b : BufId}
    {t : StrippedTags} (hp : (w.bufs b).pucEthernetBuffer = .eth b 0)
    (hres : ∀ n, w.env.pxResizeNetworkBufferWithDescriptor n = true)
    (hlen : ipSizeOfEthHeader ≤ (w.bufs b).xDataLength)
    (hmax : (w.bufs b).xDataLength + vlanTagSize * uxInsertedTags cfg c < 2 ^ 32)
    (hins : (prvInsertInterfaceTags cfg c b).run w = .ok true w₁) (hstrip : (prvStripVLANTag b).run w₁ = .ok t w₂)
    (h : TagsUndone cfg c b w w₂ t) : uxInsertedTags cfg c = 0 := by
  by_contra hc
  obtain ⟨w₁', hins', hp', hlen', hty⟩ := prvInsertInterfaceTags_some hp hres hc hlen hmax
  rw [hins] at hins'
  cases hins'
  have hne : uxTagsCounted (uxInsertedTags cfg c) ≠ uxInsertedTags cfg c ∧
      uxTagsCounted (uxInsertedTags cfg c) ≠ 0 := by
    rcases uxInsertedTags_one_or_two hc with hk | hk
    · rw [hk]
      decide
    · rw [hk]
      decide
  obtain ⟨t', w₂', hstrip', ht, -⟩ := prvStripVLANTag_tagged hp' hlen' (by rw [hty]; exact hne.2)
  rw [hstrip] at hstrip'
  cases hstrip'
  exact hne.1 (by rw [← hty, ← ht, h.uxNumTags])

/-- **Stripping undoes tagging** exactly when there is nothing to undo: one tag is counted as two, and two as one. -/
theorem strip_undoes_insert {cfg : Config} {c : NetworkInterfaceConfig} {w : World} {b : BufId}
    (hp : (w.bufs b).pucEthernetBuffer = .eth b 0)
    (hres : ∀ n, w.env.pxResizeNetworkBufferWithDescriptor n = true)
    (hlen : ipSizeOfEthHeader ≤ (w.bufs b).xDataLength)
    (hmax : (w.bufs b).xDataLength + vlanTagSize * uxInsertedTags cfg c < 2 ^ 32)
    (hty : swap16 ((w.mem b).load16 ethFrameType) ≠ vlantagTpidDefault)
    (hty' : swap16 ((w.mem b).load16 ethFrameType) ≠ vlantagTpidDoubleTag) :
    (∃ w₁ w₂ t, (prvInsertInterfaceTags cfg c b).run w = .ok true w₁ ∧ (prvStripVLANTag b).run w₁ = .ok t w₂ ∧
      TagsUndone cfg c b w w₂ t) ↔ uxInsertedTags cfg c = 0 := by
  constructor
  · rintro ⟨w₁, w₂, t, hins, hstrip, h⟩
    exact h.none_inserted hp hres hlen hmax hins hstrip
  · intro hc
    have hnone : uxTagsOfType (swap16 ((w.mem b).load16 ethFrameType)) = 0 := by
      rw [uxTagsOfType, if_neg hty', if_neg hty]
    refine ⟨w, _, _, prvInsertInterfaceTags_none hc, prvStripVLANTag_untagged hp hlen hnone, ?_⟩
    exact ⟨rfl, rfl, hc.symm, fun h => by omega, fun h => by omega⟩

theorem strip_undoes_insert_untagged :
    ∃ w₁ w₂ t, (prvInsertInterfaceTags {} ⟨0, 0, 0⟩ 0).run tcpWorld = .ok true w₁ ∧
      (prvStripVLANTag 0).run w₁ = .ok t w₂ ∧ TagsUndone {} ⟨0, 0, 0⟩ 0 tcpWorld w₂ t :=
  (strip_undoes_insert rfl (fun _ => rfl) (by decide) (by decide) (by decide) (by decide)).mpr rfl

/-- One tag comes back as two. -/
theorem strip_miscounts :
    ¬∃ w₁ w₂ t, (prvInsertInterfaceTags {} ⟨1, 5, 0⟩ 0).run tcpWorld = .ok true w₁ ∧
      (prvStripVLANTag 0).run w₁ = .ok t w₂ ∧ TagsUndone {} ⟨1, 5, 0⟩ 0 tcpWorld w₂ t := by
  rintro ⟨w₁, w₂, t, hins, hstrip, h⟩
  have h0 := h.none_inserted rfl (fun _ => rfl) (by decide) (by decide) hins hstrip
  exact absurd h0 (by decide)

/-! ## Sending -/

section Output

variable {cfg : Config} {i : IfaceId} {b : BufId} {bRelease : Bool} {w : World}

theorem sends_controller (hc : w.bCallingFromController = true) {w' : World} :
    Sends cfg i b bRelease w w' ↔ w' = lastState ((prvOutputFromController cfg i b bRelease).run w) := by
  have hrun : (xTsnNetworkInterfaceOutput cfg i b bRelease).run w = (prvOutputFromController cfg i b bRelease).run w := by
    simp -implicitDefEqProofs [xTsnNetworkInterfaceOutput, hc]
  constructor
  · intro h
    cases h with
    | controller _ => rw [hrun]
    | refused h _ => exact absurd (hc.symm.trans h) (by decide)
    | queued h _ _ _ _ => exact absurd (hc.symm.trans h) (by decide)
  · rintro rfl
    rw [← hrun]
    exact .controller hc

theorem run_output_other (hc : w.bCallingFromController = false) :
    (xTsnNetworkInterfaceOutput cfg i b bRelease).run w =
      (exec cfg (xNetworkQueueInsertPacketByFilter cfg ⟨.eNetworkTxEvent, some b, none, bRelease⟩
        cfg.tsnconfigDefaultQueueTimeout)).run w := by
  simp -implicitDefEqProofs [xTsnNetworkInterfaceOutput, hc]

theorem sends_refused (hc : w.bCallingFromController = false)
    (ha : ¬Accepts cfg w ⟨.eNetworkTxEvent, some b, none, bRelease⟩) {w' : World} :
    Sends cfg i b bRelease w w' ↔ w' = w := by
  have hrun : (xTsnNetworkInterfaceOutput cfg i b bRelease).run w = .ok false w :=
    (run_output_other hc).trans (exec_insert_refused ha _)
  constructor
  · intro h
    cases h with
    | controller h => exact absurd (hc.symm.trans h) (by decide)
    | refused _ h =>
        rw [hrun] at h
        cases h
        rfl
    | queued _ h _ _ _ =>
        rw [hrun] at h
        exact nomatch h
  · rintro rfl
    exact .refused hc hrun

/-- A frame that a queue took is sent by the controller, from a state in which its buffer is the same. -/
theorem sends_queued (hc : w.bCallingFromController = false)
    (ha : Accepts cfg w ⟨.eNetworkTxEvent, some b, none, bRelease⟩) :
    (∃ w' , Sends cfg i b bRelease w w') ∧ ∀ w', Sends cfg i b bRelease w w' → ∃ q w₂, Untouched b w w₂ ∧
      w₂.bCallingFromController = true ∧
      w' = lastState ((prvServeItem cfg q ⟨.eNetworkTxEvent, some b, none, bRelease⟩).run w₂) := by
  obtain ⟨w₁, q, hins, -, hpush⟩ := exec_insert_accepted ha cfg.tsnconfigDefaultQueueTimeout
  have hrun : (xTsnNetworkInterfaceOutput cfg i b bRelease).run w = .ok true w₁ := (run_output_other hc).trans hins
  constructor
  · have hmem : ⟨.eNetworkTxEvent, some b, none, bRelease⟩ ∈ w₁.queues q.xQueue := by
      rw [hpush.eq]
      simp
    have hu : Untouched b w₁ { w₁ with bCallingFromController := true } := ⟨rfl, rfl, rfl, rfl, rfl⟩
    exact ⟨_, .queued hc hrun hmem hu rfl⟩
  · intro w' h
    cases h with
    | controller h => exact absurd (hc.symm.trans h) (by decide)
    | refused _ h =>
        rw [hrun] at h
        exact nomatch h
    | queued _ h _ hu hc₂ =>
        rw [hrun] at h
        cases h
        exact ⟨_, _, (pushed_untouched hpush b).trans hu, hc₂, rfl⟩

/-- **Ownership of a buffer that is sent**, by the controller or through a queue. -/
theorem output_keeps_ownership (hp : (w.bufs b).pucEthernetBuffer = .eth b 0) :
    (∀ w', Sends cfg i b bRelease w w' → Owned b bRelease w w') ↔ KeepsOwnership cfg i b bRelease w := by
  cases hc : w.bCallingFromController with
  | true =>
      simp only [sends_controller hc, forall_eq, KeepsOwnership, hc]
      cases bRelease with
      | true => exact iff_of_true (prvOutputFromController_released hp cfg i) trivial
      | false => exact prvOutputFromController_kept hp cfg i
  | false =>
      by_cases ha : Accepts cfg w ⟨.eNetworkTxEvent, some b, none, bRelease⟩
      · obtain ⟨⟨w', hw'⟩, hall⟩ := sends_queued (i := i) hc ha
        have hserve : ∀ w', Sends cfg i b bRelease w w' → (Owned b bRelease w w' ↔
            if bRelease then (w.bufs b).pxEndPoint.isSome = true else NoTagsOn cfg w (w.bufs b).pxEndPoint) := by
          intro w' h
          obtain ⟨q, w₂, hu, hc₂, rfl⟩ := hall w' h
          rw [hu.owned_iff, owned_prvServeItem (by rw [hu.bufs]; exact hp) hc₂, hu.bufs, hu.noTagsOn_iff]
        have hiff : (∀ w', Sends cfg i b bRelease w w' → Owned b bRelease w w') ↔
            if bRelease then (w.bufs b).pxEndPoint.isSome = true else NoTagsOn cfg w (w.bufs b).pxEndPoint :=
          ⟨fun h => (hserve w' hw').mp (h w' hw'), fun h w' hw' => (hserve w' hw').mpr h⟩
        rw [hiff]
        cases bRelease with
        | true => simp [KeepsOwnership, hc, ha]
        | false => simp [KeepsOwnership, hc, ha]
      · simp only [sends_refused hc ha, forall_eq, KeepsOwnership, hc]
        cases bRelease with
        | true => simp [Owned, ha]
        | false => exact iff_of_true (owned_of_same rfl rfl rfl) fun h => absurd h ha

end Output

/-- The controller sends a TCP segment. -/
def sendingWorld : World := { tcpWorld with bCallingFromController := true }

theorem output_keeps_ownership_sent :
    Owned 0 true sendingWorld (lastState ((xTsnNetworkInterfaceOutput {} 0 0 true).run sendingWorld)) := by
  have h : KeepsOwnership {} 0 0 true sendingWorld := trivial
  exact (output_keeps_ownership rfl).mpr h _ (.controller rfl)

/-- A frame that no queue takes is never released. -/
theorem output_refused_leaks : ¬∀ w', Sends {} 0 0 true tcpWorld w' → Owned 0 true tcpWorld w' := by
  intro h
  have hno : ¬Accepts {} tcpWorld ⟨.eNetworkTxEvent, some 0, none, true⟩ := by
    rintro ⟨q, hq, -⟩
    exact nomatch hq
  have hout := h tcpWorld ((sends_refused (i := 0) rfl hno).mpr rfl)
  exact absurd hout (by simp [Owned])

/-! ## Delivering -/

/-- **Traffic that is not UDP** reaches the IP task exactly when its port is 0 or bound at reception, and no TSN socket
is bound to it at delivery. -/
theorem nonUDP_reaches_ip_task {cfg : Config} {w : World} {b : BufId} {tsn : List (UInt16 × Addr)}
    {udp : List (UInt16 × SockId)} (hw : HeapOk w) (htb : TimebaseOk w) (hsock : SocketsOk w) (hf : NonUDPFrame w b)
    (hmem : ∀ n, w.env.pvPortMalloc n = true) :
    ReachesIPTask cfg w b tsn udp ↔
      Wanted w (portsOf (w.mem b)).1 ∧ prvLookup (portsOf (w.mem b)).1 tsn = none := by
  constructor
  · rintro ⟨xItem, w₁, hrun, hlater⟩
    have hport : Wanted w (portsOf (w.mem b)).1 := by
      by_contra hno
      obtain ⟨w₁', hrun'⟩ := prvHandleReceive_unwanted hf hno
      rw [hrun] at hrun'
      exact nomatch hrun'
    refine ⟨hport, ?_⟩
    obtain ⟨pxMsgh, w₁', hrun', hr⟩ := prvHandleReceive_wanted hw htb hf hsock hmem hport
    rw [hrun] at hrun'
    cases hrun'
    -- The sockets are bound in the meantime; nothing else happens.
    let w₂ : World := { w₁ with
      xTSNBoundUDPSocketList := tsn
      xBoundUDPSocketsList := udp
      env := { w₁.env with xSendEventStructToIPTask := fun _ => true } }
    obtain ⟨w₃, hdel, hfwd⟩ := hlater w₂ true ⟨rfl, rfl, hr.heapOk.toMsgHeap, fun _ _ => rfl⟩ rfl rfl fun _ => rfl
    cases hl : prvLookup (portsOf (w.mem b)).1 tsn with
    | none => rfl
    | some t =>
        have hframe : NonUDPFrame w₂ b := hr.frame.congr rfl rfl rfl rfl rfl
        have hl₂ : prvLookup (w₂.bufs b).usBoundPort w₂.xTSNBoundUDPSocketList = some t := by
          rw [show (w₂.bufs b).usBoundPort = (portsOf (w.mem b)).1 from hr.usBoundPort]
          exact hl
        exact absurd hfwd (prvDeliverFrame_not_forwarded rfl hframe hl₂ hdel)
  · rintro ⟨hport, hl⟩
    obtain ⟨pxMsgh, w₁, hrun, hr⟩ := prvHandleReceive_wanted hw htb hf hsock hmem hport
    refine ⟨_, w₁, hrun, ?_⟩
    intro w₂ xUsingIPTask hlater htsn hudp hroom
    apply prvDeliverFrame_forwarded rfl _ hlater.heap _ _ hroom
    · exact hr.frame.congr hlater.mem (by rw [hlater.bufs]) (by rw [hlater.bufs]) (by rw [hlater.bufs])
        (by rw [hlater.bufs])
    · intro a ha
      obtain ⟨m, hm⟩ := hr.msgh a ha
      exact ⟨m, by rw [hlater.msgh a ha]; exact hm⟩
    · rw [hlater.bufs, hr.usBoundPort, htsn]
      exact hl

theorem nonUDP_reaches_ip_task_arp : ReachesIPTask {} arpWorld 0 [] [] :=
  (nonUDP_reaches_ip_task (rxWorld_heapOk _) (fun h => nomatch h) (fun _ h => nomatch h)
    ⟨rfl, by decide, by decide, by decide, by decide, by decide, by decide, by decide⟩ fun _ => rfl).mpr
    ⟨.inl rfl, rfl⟩

/-- A TCP segment is dropped on a node without UDP sockets. -/
theorem tcp_dropped : ¬ReachesIPTask {} tcpWorld 0 [] [] := by
  rintro ⟨xItem, w₁, hrun, -⟩
  have hf : NonUDPFrame tcpWorld 0 := ⟨rfl, by decide, by decide, by decide, by decide, by decide, by decide, by decide⟩
  have hport : ¬Wanted tcpWorld (portsOf (tcpWorld.mem 0)).1 := by
    rintro (h | h | h)
    · exact absurd h (by decide)
    · exact h rfl
    · exact h rfl
  obtain ⟨w₁', hrun'⟩ := prvHandleReceive_unwanted hf hport
  rw [hrun] at hrun'
  exact nomatch hrun'

/-! ## Receiving -/

/-- **Peeking** only observes exactly when it takes nothing: the calls are refused, or look for an error message and
there is none. -/
theorem peek_observes {w : World} {t : Addr} {s : TSNSocket} {x : BaseSocket} {xFlags : Nat} (h : TsnSocketOk w t s x)
    (hl : x.xWaitingPacketsList ≠ []) (hpeek : hasFlag xFlags freertosMsgPeek = true) (us : List (Option UserMsghdr)) :
    PeeksObserve t s x xFlags us w ↔ x.bBound = false ∨ (∀ u ∈ us, u = none) ∨
      hasFlag xFlags freertosMsgErrqueue = true ∧ w.errQueues s.xErrQueue = [] := by
  constructor
  · rintro ⟨w₁, hrun, hsame, -⟩
    by_contra hno
    obtain ⟨hb, hnull, herr⟩ : x.bBound = true ∧ (¬∀ u ∈ us, u = none) ∧
        ¬(hasFlag xFlags freertosMsgErrqueue = true ∧ w.errQueues s.xErrQueue = []) := by
      rwa [not_or, not_or, Bool.not_eq_false] at hno
    cases hf : hasFlag xFlags freertosMsgErrqueue with
    | false =>
        -- The first packet is released.
        obtain ⟨b, rest, hcons⟩ := List.exists_cons_of_ne_nil hl
        have hreleased := prvPeeks_broken h hb hpeek hf hcons hnull hrun
        rw [hsame.released] at hreleased
        simp at hreleased
    | true =>
        -- The first error message is gone.
        obtain ⟨w', hrun', hq⟩ := run_prvPeeks_errors h hb hf us
        cases hrun.symm.trans hrun'
        rw [hsame.errQueues] at hq
        have hlength := congrArg List.length hq
        have hpos : 0 < us.countP Option.isSome := by
          rw [List.countP_pos_iff]
          push Not at hnull
          obtain ⟨u, hu, hne⟩ := hnull
          exact ⟨u, hu, Option.isSome_iff_ne_none.mpr hne⟩
        have hne : 0 < (w.errQueues s.xErrQueue).length := List.length_pos_of_ne_nil fun hnil => herr ⟨hf, hnil⟩
        rw [List.length_drop] at hlength
        omega
  · intro ho
    refine ⟨w, run_prvPeeks_observes h us ho, ⟨rfl, rfl, rfl, rfl, rfl, ?_, ?_⟩, ?_⟩
    · exact fun b _ a _ m hm => ⟨hm, fun _ _ _ => rfl⟩
    · exact fun a _ m hm => ⟨hm, fun _ _ _ => rfl⟩
    · intro u xFlags' r w₂ _ hcall
      exact ⟨w₂, hcall, rfl, rfl, fun htakes => recvmsg_takenOnce h hl htakes hcall⟩

/-- A bound socket and its packet, which waits with its message. -/
def waitingSocket : BaseSocket := ⟨true, 80, [0], false, 0, 0, none⟩

def waitingWorld : World :=
  { World.boot {} with
    calls := 3
    bufs := fun _ => ⟨.blk 1, 60, some 0, some 0, 0, 0, .ipv4 0⟩
    heap := fun a =>
      match a with
      | 0 => some (.tsnSocket ⟨0, 0, 0, 0, 0, 0, 0⟩)
      | 1 => some (.msghdr { msgIov := some 2, msgIovlen := 1 })
      | 2 => some (.iovec [⟨.eth 0 0, 60⟩])
      | _ => none
    baseSockets := fun _ => some waitingSocket }

theorem waitingWorld_msghdr {a : Addr} {m : Msghdr} (h : waitingWorld.heap a = some (.msghdr m)) :
    a = 1 ∧ m = { msgIov := some 2, msgIovlen := 1 } := by
  match a, h with
  | 0, h => exact nomatch h
  | 1, h =>
      cases h
      exact ⟨rfl, rfl⟩
  | 2, h => exact nomatch h
  | _ + 3, h => exact nomatch h

theorem waitingWorld_ok : TsnSocketOk waitingWorld 0 ⟨0, 0, 0, 0, 0, 0, 0⟩ waitingSocket where
  heapOk :=
    { live := by
        intro a m p y ha hy
        obtain ⟨-, rfl⟩ := waitingWorld_msghdr ha
        cases p with
        | iov =>
            cases hy
            exact ⟨_, rfl, rfl⟩
        | name => exact nomatch hy
        | control => exact nomatch hy
      owner := fun ha ha' _ _ => (waitingWorld_msghdr ha).1.trans (waitingWorld_msghdr ha').1.symm
      fresh := by
        intro y hy
        match y, hy with
        | _ + 3, _ => rfl
      freed := fun _ h => nomatch h
      freedOnce := List.nodup_nil }
  socket := rfl
  base := rfl
  waiting := by
    intro b hb
    cases List.mem_singleton.mp hb
    exact ⟨1, _, 2, 60, rfl, rfl, rfl, rfl, rfl, rfl⟩
  errors := ⟨fun _ h => (nomatch h), List.nodup_nil⟩

/-- Two peeks look for an error message, of which there is none. -/
theorem peek_observes_error_queue : PeeksObserve 0 ⟨0, 0, 0, 0, 0, 0, 0⟩ waitingSocket 16388
    [some ⟨none, 0, none, 0, none, 0, 0⟩, some ⟨none, 0, none, 0, none, 0, 0⟩] waitingWorld :=
  (peek_observes waitingWorld_ok (List.cons_ne_nil _ _) (by decide) _).mpr (.inr (.inr ⟨by decide, rfl⟩))

/-- `waitingWorld` with a message in the error queue. -/
def errorWorld : World :=
  { waitingWorld with
    calls := 4
    heap := Function.update waitingWorld.heap 3 (some (.msghdr {}))
    errQueues := fun _ => [3] }

/-- A peek releases the packet that it looks at. At the error queue, it takes the message. -/
theorem peek_releases :
    ¬PeeksObserve 0 ⟨0, 0, 0, 0, 0, 0, 0⟩ waitingSocket 4 [some ⟨none, 0, none, 0, none, 0, 0⟩] waitingWorld ∧
      ¬PeeksObserve 0 ⟨0, 0, 0, 0, 0, 0, 0⟩ waitingSocket 16388 [some ⟨none, 0, none, 0, none, 0, 0⟩] errorWorld := by
  constructor
  · rintro ⟨w₁, hrun, hsame, -⟩
    have hreleased := prvPeeks_broken waitingWorld_ok rfl (by decide) (by decide) rfl (by simp) hrun
    rw [hsame.released] at hreleased
    simp at hreleased
  · rintro ⟨w₁, hrun, hsame, -⟩
    cases hrun
    exact nomatch congrFun hsame.errQueues 0

/-! ## Packets that wait -/

/-- **Swapped pointers are restored** before a packet is released, in every run in which a socket is closed only when
no packet waits. -/
theorem pointers_restored {cfg : Config} {t : Addr} {s : TSNSocket} {w₀ w : World} {hs : Handed}
    (h : SocketStart t s w₀)
    (hrun : Relation.ReflTransGen (SocketStep cfg t s (NoneWaiting s.xBaseSocket)) (w₀, []) (w, hs)) :
    PacketsOk s.xBaseSocket w hs := by
  have hinv : ∀ c, Relation.ReflTransGen (SocketStep cfg t s (NoneWaiting s.xBaseSocket)) (w₀, []) c →
      SocketInv t s c.1 c.2 := by
    intro c hc
    induction hc with
    | refl => exact h.inv
    | tail _ hst ih => exact ih.step hst
  exact (hinv (w, hs) hrun).toPacketsOk

/-- The socket and the message of `waitingWorld`, before the message is delivered. -/
def idleSocket : BaseSocket := { waitingSocket with xWaitingPacketsList := [] }

def idleWorld : World :=
  { waitingWorld with
    bufs := fun b => ⟨.eth b 0, 60, some 0, some 0, 0, 0, .ipv4 0⟩
    baseSockets := fun _ => some idleSocket
    xTSNBoundUDPSocketList := [(swap16 80, 0)] }

theorem idleWorld_start : SocketStart 0 ⟨0, 0, 0, 0, 0, 0, 0⟩ idleWorld where
  heapOk := ⟨waitingWorld_ok.heapOk.toMsgHeap, waitingWorld_ok.heapOk.fresh, fun _ h => (nomatch h), List.nodup_nil⟩
  socket := rfl
  waiting := rfl
  errors := ⟨fun _ h => (nomatch h), List.nodup_nil⟩

theorem idleWorld_receive (C : World → Prop) :
    SocketStep {} 0 ⟨0, 0, 0, 0, 0, 0, 0⟩ C (idleWorld, []) (waitingAfter idleWorld 0 1 0 idleSocket, [(0, 1)]) := by
  have hc : Carries idleWorld 1 0 { msgIov := some 2, msgIovlen := 1 } 2 60 := ⟨rfl, rfl, rfl, rfl, rfl⟩
  have hb : (rxItem 0 (some 1)).pxBuf = some 0 := rfl
  refine .receive hb rfl hc rfl (fun _ h => nomatch h) (fun _ h => nomatch h) ?_
  rw [prvReceiveUDPPacketTSN_carries rfl rfl hc rfl, run_prvWaitForUser rfl]

/-- The packet is delivered and received, and the socket is closed then. -/
theorem pointers_restored_received : ∃ w,
    Relation.ReflTransGen (SocketStep {} 0 ⟨0, 0, 0, 0, 0, 0, 0⟩ (NoneWaiting 0)) (idleWorld, []) (w, [(0, 1)]) ∧
      w.released = [(0, .eth 0 0)] ∧ w.xTSNBoundUDPSocketList = [] ∧ PacketsOk 0 w [(0, 1)] := by
  have hreceived : (freeRtosTsnRecvmsg 0 (some ⟨none, 0, none, 0, none, 0, 0⟩) 0).run
      (waitingAfter idleWorld 0 1 0 idleSocket) = .ok _ _ := rfl
  have hrun := (Relation.ReflTransGen.single (idleWorld_receive (NoneWaiting 0))).tail (.recvmsg (by decide) hreceived)
  have hclosed := hrun.tail (.closesocket rfl rfl)
  exact ⟨_, hclosed, rfl, rfl, pointers_restored idleWorld_start hclosed⟩

/-- A socket is closed while a packet waits. -/
theorem close_releases_swapped :
    ¬∀ w hs, Relation.ReflTransGen (SocketStep {} 0 ⟨0, 0, 0, 0, 0, 0, 0⟩ fun _ => True) (idleWorld, []) (w, hs) →
      PacketsOk 0 w hs := by
  intro h
  have hinv := idleWorld_start.inv.step (idleWorld_receive _)
  have hclose := run_freeRtosTsnClosesocket (w := waitingAfter idleWorld 0 1 0 idleSocket) (t := 0)
    ⟨swap16 80, by simp [waitingAfter, idleWorld]⟩ rfl rfl
  exact hinv.closesocket_breaks (by simp [NoneWaiting, waiting, waitingAfter]) hclose
    (h _ _ (.tail (.single (idleWorld_receive _)) (.closesocket trivial hclose)))

/-! ## Items in flight -/

/-- **Items stay deliverable** exactly when they got a message with a vector, or no TSN socket gets them; and a
reception ends exactly when there is memory for the message. -/
theorem inflight_deliverable {cfg : Config} {socks : Addr → Option TSNSocket} {N₀ N : Node} (h : NodeStart socks N₀)
    (hrun : Relation.ReflTransGen (NodeStep cfg socks) N₀ N) :
    (∀ b d m, ∃ f, Parses (arrived N.w b d m) b f ∧
      (ReceivesWell (arrived N.w b d m) b ↔ HasMsgh (arrived N.w b d m) f)) ∧
    ∀ b x, N.inFlight b = some x →
      (DeliversWell cfg N.w b x.pxMsgh ↔ (ForTsnSocket N.w b → x.bVector = true)) := by
  have hinv : NodeInv socks N := by
    induction hrun with
    | refl => exact h.inv
    | tail _ hst ih => exact ih.step hst
  exact ⟨hinv.receives_iff, fun b x hx => hinv.delivers_iff hx⟩

/-- One TSN socket, which is not bound. -/
def oneSocket (t : Addr) : Option TSNSocket := if t = 0 then some ⟨0, 0, 0, 0, 0, 0, 0⟩ else none

def socketWorld : World :=
  { World.boot {} with
    calls := 1
    heap := fun a => (oneSocket a).map .tsnSocket
    baseSockets := fun _ => some ⟨false, 0, [], false, 0, 0, none⟩ }

def socketNode : Node := ⟨socketWorld, fun _ => none, fun _ => .unbound⟩

theorem oneSocket_eq {t : Addr} {s : TSNSocket} (h : oneSocket t = some s) : t = 0 := by
  by_contra hne
  rw [oneSocket, if_neg hne] at h
  exact nomatch h

theorem socketNode_start : NodeStart oneSocket socketNode where
  heapOk := by
    have hno : ∀ {a m}, socketWorld.heap a ≠ some (.msghdr m) := by
      intro a m h
      obtain ⟨s, -, hs⟩ := Option.map_eq_some_iff.mp h
      exact nomatch hs
    refine ⟨⟨fun h => absurd h hno, fun h => absurd h hno⟩, ?_, fun _ h => (nomatch h), List.nodup_nil⟩
    intro y hy
    have hne : y ≠ 0 := Nat.ne_of_gt hy
    simp [socketNode, socketWorld, oneSocket, hne]
  timebase h := nomatch h
  sockets t s hs := by simp [socketNode, socketWorld, hs]
  own t t' s s' hs hs' _ := (oneSocket_eq hs).trans (oneSocket_eq hs').symm
  tsn := rfl
  inFlight _ := rfl
  phase _ := rfl

/-- A UDP datagram for port 80. -/
def udpFrame : Mem := fun i => ([(12, 8), (23, 17), (37, 80)].lookup i).getD 0

def udpBuf : NetworkBufferDescriptor := ⟨.eth 1 0, 60, some 0, some 0, 0, 0, .ipv4 0⟩

/-- The socket is bound to port 80, but not listed. -/
def boundNode : Node :=
  ⟨lastState ((freeRtosBind 0 (swap16 80)).run socketWorld), fun _ => none,
    Function.update (fun _ => .unbound) 0 .binding⟩

theorem boundNode_reached : Relation.ReflTransGen (NodeStep {} oneSocket) socketNode boundNode := by
  have ht : oneSocket 0 = some ⟨0, 0, 0, 0, 0, 0, 0⟩ := rfl
  have hrun : (freeRtosBind 0 (swap16 80)).run socketNode.w = .ok true boundNode.w := rfl
  exact .single (.bindBase ht hrun)

/-- The half of the bind that is left. -/
def listed (N : Node) : Node :=
  ⟨lastState ((vTsnSocketInsert 0).run N.w), N.inFlight, Function.update N.phase 0 .listed⟩

/-- The datagram is received. -/
def received (N : Node) (x : Flight) : Node :=
  ⟨lastState ((prvHandleReceive 1).run (arrived N.w 1 udpBuf udpFrame)), Function.update N.inFlight 1 (some x), N.phase⟩

/-- The datagram is received when the socket is listed. -/
def servedNode : Node := received (listed boundNode) ⟨some 2, true⟩

theorem servedNode_reached : Relation.ReflTransGen (NodeStep {} oneSocket) socketNode servedNode := by
  have hlist : (vTsnSocketInsert 0).run boundNode.w = .ok () (listed boundNode).w := rfl
  have hf : Parses (arrived (listed boundNode).w 1 udpBuf udpFrame) 1 (parsedOf udpFrame) := ⟨_, rfl⟩
  have hreceive : (prvHandleReceive 1).run (arrived (listed boundNode).w 1 udpBuf udpFrame) =
      .ok (some (rxItem 1 (some 2))) servedNode.w := rfl
  exact (boundNode_reached.tail (.bindList rfl hlist)).tail (.receive rfl hf hreceive)

theorem inflight_deliverable_served : DeliversWell {} servedNode.w 1 (some 2) :=
  ((inflight_deliverable socketNode_start servedNode_reached).2 1 ⟨some 2, true⟩ rfl).mpr fun _ => rfl

/-- The datagram is received between the halves of the bind. -/
def racedNode : Node := listed (received boundNode ⟨none, false⟩)

theorem racedNode_reached : Relation.ReflTransGen (NodeStep {} oneSocket) socketNode racedNode := by
  have hf : Parses (arrived boundNode.w 1 udpBuf udpFrame) 1 (parsedOf udpFrame) := ⟨_, rfl⟩
  have hreceive : (prvHandleReceive 1).run (arrived boundNode.w 1 udpBuf udpFrame) =
      .ok (some (rxItem 1 none)) (received boundNode ⟨none, false⟩).w := rfl
  have hlist : (vTsnSocketInsert 0).run (received boundNode ⟨none, false⟩).w = .ok () racedNode.w := rfl
  exact (boundNode_reached.tail (.receive rfl hf hreceive)).tail (.bindList rfl hlist)

/-- The socket that is listed meanwhile gets an item without a message. -/
theorem delivery_raced :
    ¬∀ N, Relation.ReflTransGen (NodeStep {} oneSocket) socketNode N → NodeOk {} N := by
  intro h
  have hfor : ForTsnSocket racedNode.w 1 := ⟨⟨rfl, by decide, by decide, by decide⟩, by decide, by decide⟩
  obtain ⟨a, -, -, -, -, ha, -⟩ := ((h racedNode racedNode_reached).2 1 ⟨none, false⟩ rfl).1 hfor
  exact nomatch ha

/-! ## Datagrams -/

/-- **A datagram arrives as it was sent** exactly when the buffer of the user is not larger than the payload: the length
that the receiver goes by counts the UDP header. -/
theorem datagram_round_trip {cfg cfg' : Config} {w w' v v' : World} {t t' : Addr} {s : TSNSocket} {x : BaseSocket}
    {p pvBuffer : List UInt8} {dest : Destination} {b b' : BufId} {rest : List BufId} {xFlags : Nat}
    {pxSourceAddress : Option (List UInt8)} (hsent : SentAs cfg t p dest b w w') (hframe : frameOf v b' = frameOf w' b)
    (hv : HeapOk v) (htb : TimebaseOk v) (hd : Deliverable v b') (hpass : Passage cfg' dest.sinPort t' s b' v v')
    (hok : TsnSocketOk v' t' s x) (hb : x.bBound = true) (hfirst : x.xWaitingPacketsList = b' :: rest) :
    GetsPayload t' p pvBuffer xFlags pxSourceAddress v' ↔
      pvBuffer.length ≤ p.length ∧ pvBuffer.length ≤ (p.length + 8) % 65536 := by
  have hf := hsent.datagramFrame.received hframe
  exact getsPayload_iff hf (hpass.atSocket hv htb hd hf) hok hb hfirst xFlags pxSourceAddress

/-- A queue for every frame. -/
def anyQueue : NetworkQueue := ⟨0, 0, .eSendRecv, [], prvAlwaysTrue⟩

/-- A node with a bound socket that knows its neighbours. -/
def senderWorld : World :=
  { World.boot { eARPGetCacheEntry := fun _ => some (Vector.replicate 6 0, 0) } with
    calls := 1
    heap := fun a => (oneSocket a).map .tsnSocket
    baseSockets := fun _ => some ⟨true, 0, [], false, 0, 10, none⟩
    pxNetworkQueueList := [anyQueue] }

def sentWorld : World := lastState ((freeRtosTsnSendto {} 0 [1, 2, 3] (some ⟨2, swap16 80, .ipv4 0⟩)).run senderWorld)

theorem sentWorld_sent : SentAs {} 0 [1, 2, 3] ⟨2, swap16 80, .ipv4 0⟩ 1 senderWorld sentWorld where
  socket := ⟨⟨0, 0, 0, 0, 0, 0, 0⟩, rfl, rfl⟩
  accepted := eq_ok_of_valueOf (by decide +kernel)
  queued := ⟨0, by decide +kernel⟩

/-- The frame that was sent. -/
def sentFrame : Mem := fun i =>
  ([(12, 8), (14, 69), (17, 31), (22, 128), (23, 17), (37, 80), (39, 11), (42, 1), (43, 2), (44, 3)].lookup i).getD 0

/-- A node that listens on port 80 and has the frame in buffer 7. -/
def listeningWorld : World :=
  { socketWorld with
    baseSockets := fun _ => some idleSocket
    xTSNBoundUDPSocketList := [(swap16 80, 0)]
    pxNetworkQueueList := [anyQueue]
    bufs := fun b => ⟨.eth b 0, 45, some 0, some 0, 0, 0, .ipv4 0⟩
    mem := fun _ => sentFrame }

theorem listeningWorld_frame : frameOf listeningWorld 7 = frameOf sentWorld 1 := by decide +kernel

def receivedWorld : World := lastState ((prvHandleReceive 7).run listeningWorld)

def queuedWorld : World :=
  lastState ((exec {} (xNetworkQueueInsertPacketByFilter {} (rxItem 7 (some 1)) 0)).run receivedWorld)

def deliveredWorld : World := lastState ((prvDeliverFrame {} (rxItem 7 (some 1)) true).run queuedWorld)

/-- The socket with the packet. -/
def servedSocket : BaseSocket := { idleSocket with xWaitingPacketsList := [7] }

/-- The frame in buffer 7 waits with the message in block 1. -/
theorem servedSocket_ok {w : World} {m : Msghdr} {i : Addr} {n : Nat} (hok : HeapOk w)
    (hs : w.heap 0 = some (.tsnSocket ⟨0, 0, 0, 0, 0, 0, 0⟩)) (hx : w.baseSockets 0 = some servedSocket)
    (hp : (w.bufs 7).pucEthernetBuffer = .blk 1) (hc : Carries w 1 7 m i n) (herrors : w.errQueues 0 = []) :
    TsnSocketOk w 0 ⟨0, 0, 0, 0, 0, 0, 0⟩ servedSocket where
  heapOk := hok
  socket := hs
  base := hx
  waiting := by
    intro b hb
    cases List.mem_singleton.mp hb
    exact ⟨1, m, i, n, hp, hc⟩
  errors := by
    refine ⟨fun e he => ?_, ?_⟩
    · rw [herrors] at he
      cases he
    · rw [herrors]
      exact List.nodup_nil

theorem listeningWorld_heapOk : HeapOk listeningWorld :=
  ⟨socketNode_start.heapOk.toMsgHeap, socketNode_start.heapOk.fresh, fun _ h => (nomatch h), List.nodup_nil⟩

theorem listeningWorld_socketsOk : SocketsOk listeningWorld := by
  intro e he
  rw [List.mem_singleton.mp he]
  exact ⟨_, rfl⟩

theorem listeningWorld_bound : BoundTo listeningWorld (swap16 80) 0 ⟨0, 0, 0, 0, 0, 0, 0⟩ := ⟨by decide, rfl, rfl⟩

theorem deliveredWorld_passage :
    Passage {} (swap16 80) 0 ⟨0, 0, 0, 0, 0, 0, 0⟩ 7 listeningWorld deliveredWorld := by
  have hreceive : (prvHandleReceive 7).run listeningWorld = .ok (some (rxItem 7 (some 1))) receivedWorld := rfl
  have hqueue : (exec {} (xNetworkQueueInsertPacketByFilter {} (rxItem 7 (some 1)) 0)).run receivedWorld =
      .ok true queuedWorld := rfl
  have hdeliver : (prvDeliverFrame {} (rxItem 7 (some 1)) true).run queuedWorld = .ok () deliveredWorld := rfl
  have hbound : BoundTo queuedWorld (swap16 80) 0 ⟨0, 0, 0, 0, 0, 0, 0⟩ := ⟨by decide, rfl, rfl⟩
  exact .mk listeningWorld_bound hreceive hqueue (refl_of (LeftAlone _ _) _) hbound hdeliver (refl_of (LeftAlone _ _) _)

theorem deliveredWorld_ok : TsnSocketOk deliveredWorld 0 ⟨0, 0, 0, 0, 0, 0, 0⟩ servedSocket := by
  have hdelivered : HeapOk deliveredWorld := by
    have hreceive : (prvHandleReceive 7).run listeningWorld = .ok (some (rxItem 7 (some 1))) receivedWorld := rfl
    have hdeliver : (prvDeliverFrame {} (rxItem 7 (some 1)) true).run queuedWorld = .ok () deliveredWorld := rfl
    obtain ⟨hb, m, hleft⟩ :=
      prvHandleReceive_message listeningWorld_heapOk (fun h => nomatch h) listeningWorld_socketsOk rfl hreceive rfl
    -- The queue took the packet, and no block of the heap.
    have hok : HeapOk queuedWorld :=
      ⟨hleft.heapOk.toMsgHeap, hleft.heapOk.fresh, hleft.heapOk.freed, hleft.heapOk.freedOnce⟩
    have hwaits := prvDeliverFrame_waits (w := queuedWorld) hb rfl rfl hleft.msghdr hleft.msgFlags hdeliver rfl
    exact hwaits.2.2.2 hok
  exact servedSocket_ok hdelivered rfl rfl rfl ⟨rfl, rfl, rfl, rfl, rfl⟩ rfl

theorem datagram_round_trip_three : GetsPayload 0 [1, 2, 3] [9, 9] 0 none deliveredWorld :=
  (datagram_round_trip sentWorld_sent listeningWorld_frame listeningWorld_heapOk (fun h => nomatch h)
    ⟨rfl, by decide, by decide, by decide⟩ deliveredWorld_passage deliveredWorld_ok rfl rfl).mpr ⟨by decide, by decide⟩

/-- A larger buffer gets 8 bytes too many. -/
theorem datagram_too_long : ¬GetsPayload 0 [1, 2, 3] (List.replicate 16 0) 0 none deliveredWorld := by
  have hf := sentWorld_sent.datagramFrame.received listeningWorld_frame
  have hw := deliveredWorld_passage.atSocket listeningWorld_heapOk (fun h => nomatch h)
    ⟨rfl, by decide, by decide, by decide⟩ hf
  intro h
  exact absurd ((getsPayload_iff hf hw deliveredWorld_ok rfl rfl 0 none).mp h).1 (by decide)

/-! ## Bounds -/

/-- **Bounds**: a reception keeps to the frame exactly when the frame is as long as the headers it announces. -/
theorem reception_in_bounds {w : World} {b : BufId} (hp : (w.bufs b).pucEthernetBuffer = .eth b 0)
    (hmax : (w.bufs b).xDataLength < 2 ^ 32) :
    ∃ t w₁, (prvStripVLANTag b).run w = .ok t w₁ ∧
      (ReceivesInBounds b w t w₁ ↔ HeadersPresent (w.mem b) (w.bufs b).xDataLength) := by
  obtain ⟨t, w₁, hstrip, -⟩ := run_prvStripVLANTag hp
  exact ⟨t, w₁, hstrip, receives_iff_headersPresent hp hmax hstrip⟩

theorem reception_in_bounds_tcp :
    ∃ t w₁, (prvStripVLANTag 0).run tcpWorld = .ok t w₁ ∧ ReceivesInBounds 0 tcpWorld t w₁ := by
  obtain ⟨t, w₁, hstrip, hiff⟩ := @reception_in_bounds tcpWorld 0 rfl (by decide)
  exact ⟨t, w₁, hstrip, hiff.mpr (by decide)⟩

/-- A frame that ends with its Ethernet header, in which the type announces a service tag. -/
def runtWorld : World :=
  { rxWorld [(12, 0x88), (13, 0xa8)] with bufs := fun b => ⟨.eth b 0, 14, some 0, some 0, 0, 0, .ipv4 0⟩ }

/-- The tag is read behind the end of the frame, and almost all of the address space is moved. -/
theorem reception_underflows :
    (lastState ((prvStripVLANTag 0).run (boundTo 0 14 runtWorld))).overruns =
        [(0, 14, 2), (0, 16, 2 ^ 32 - 2), (0, 12, 2 ^ 32 - 2)] ∧
      ¬∃ t w₁, (prvStripVLANTag 0).run runtWorld = .ok t w₁ ∧ ReceivesInBounds 0 runtWorld t w₁ := by
  have hruns : (lastState ((prvStripVLANTag 0).run (boundTo 0 14 runtWorld))).overruns =
      [(0, 14, 2), (0, 16, 2 ^ 32 - 2), (0, 12, 2 ^ 32 - 2)] := by decide +kernel
  refine ⟨hruns, ?_⟩
  rintro ⟨t, w₁, -, h⟩
  exact List.cons_ne_nil _ _ (hruns.symm.trans h.strip)

end FreeRtosTsn.Packet
