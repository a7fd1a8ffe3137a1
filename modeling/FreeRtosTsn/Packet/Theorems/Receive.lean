import FreeRtosTsn.Packet.Theorems

/-!
# Main results on what the user is given

The payload that is copied is that of the frame, and the control messages are whole, unless the lengths say otherwise.
-/

namespace FreeRtosTsn.Packet

open Lib Kernel

/-! ## The payload -/

/-- **No disclosure**: the user is given bytes of the frame only, unless its UDP header announces more than it has. -/
theorem recvmsg_keeps_to_frame_iff {v v₁ w : World} {b : BufId} {a t : Addr} {s : TSNSocket} {x : BaseSocket}
    {xItem : NetworkQueueItem} {rest : List BufId} {xFlags : Nat} (hv : HeapOk v) (htb : TimebaseOk v)
    (hsock : SocketsOk v) (hp : (v.bufs b).pucEthernetBuffer = .eth b 0)
    (hreceive : (prvHandleReceive b).run v = .ok (some xItem) v₁) (ha : xItem.pxMsgh = some a)
    (hwait : Waits b a v₁ w) (hok : TsnSocketOk w t s x) (hb : x.bBound = true)
    (hl : x.xWaitingPacketsList = b :: rest) (hf : hasFlag xFlags freertosMsgErrqueue = false) {u : UserMsghdr}
    {dst : List UInt8} {iovLen : Nat} {us : List (List UInt8 × Nat)} (hu : u.msgIov = some ((dst, iovLen) :: us))
    (hlen : 1 ≤ u.msgIovlen) :
    KeepsToFrame t xFlags u dst iovLen us b (v₁.bufs b).xDataLength w ↔
      LengthFits (v₁.mem b) (v₁.bufs b).xDataLength iovLen := by
  obtain ⟨m, i, hc⟩ := hwait.carries hok (by rw [hl]; exact List.mem_cons_self)
    (prvHandleReceive_carries hv htb hsock hp hreceive ha)
  obtain ⟨u', htaken, hiov⟩ := takenMessage_first (w := w) (b := b) (x := m) (v₁.bufs b).xDataLength hu hlen
  have hpacket := recvmsg_packet hok hb hf hl hwait.pucEthernetBuffer hc u
  rw [htaken] at hpacket
  obtain ⟨w', hrun, -⟩ := hpacket
  rw [← hwait.mem]
  generalize (v₁.bufs b).xDataLength = n at *
  constructor
  · rintro ⟨off, uxLen, r, u₁, w₁, hrange, -, -, hin⟩ hudp
    rw [copiedRange_iff, payloadOf_udp hudp] at hrange
    obtain ⟨rfl, rfl⟩ := hrange
    rcases Nat.eq_zero_or_pos (min iovLen (usLengthOf (w.mem b))) with h0 | hpos
    · exact .inl h0
    · have hlast := hin (min iovLen (usLengthOf (w.mem b)) - 1) (Nat.sub_lt hpos Nat.one_pos)
      exact .inr (by omega)
  · intro hfits
    refine ⟨_, _, _, u', w', copiedRange_iff.mpr ⟨rfl, rfl⟩, hrun, hiov, ?_⟩
    intro j hj
    by_cases hudp : protocolOf (w.mem b) = ipProtocolUdp
    · rw [payloadOf_udp hudp] at hj ⊢
      dsimp only at hj ⊢
      rcases hfits hudp with h0 | hfits
      · omega
      · omega
    · -- the whole frame is given
      rw [payloadOf_other hudp] at hj ⊢
      dsimp only at hj ⊢
      omega

/-- A user with a buffer of `n` bytes. -/
def payloadUser (n : Nat) : UserMsghdr := ⟨none, 0, some [(List.replicate n 0, n)], 1, none, 0, 0⟩

theorem deliveredWorld_waits : Waits 7 1 receivedWorld deliveredWorld := ⟨rfl, rfl, fun _ h => ⟨h, fun _ _ => rfl⟩⟩

theorem recvmsg_keeps_to_frame_two : KeepsToFrame 0 0 (payloadUser 2) (List.replicate 2 0) 2 [] 7
    (receivedWorld.bufs 7).xDataLength deliveredWorld :=
  (recvmsg_keeps_to_frame_iff listeningWorld_heapOk (fun h => nomatch h) listeningWorld_socketsOk rfl
    (show (prvHandleReceive 7).run listeningWorld = .ok (some (rxItem 7 (some 1))) receivedWorld from rfl) rfl
    deliveredWorld_waits deliveredWorld_ok rfl rfl rfl rfl (Nat.le_refl 1)).mpr (by decide)

/-- The three bytes that were sent are the end of the frame; a buffer of 16 bytes gets 8 more. -/
theorem recvmsg_discloses : (prvHandleReceive 7).run listeningWorld = .ok (some (rxItem 7 (some 1))) receivedWorld ∧
    Waits 7 1 receivedWorld deliveredWorld ∧ TsnSocketOk deliveredWorld 0 ⟨0, 0, 0, 0, 0, 0, 0⟩ servedSocket ∧
    ¬KeepsToFrame 0 0 (payloadUser 16) (List.replicate 16 0) 16 [] 7 (receivedWorld.bufs 7).xDataLength deliveredWorld := by
  refine ⟨rfl, deliveredWorld_waits, deliveredWorld_ok, ?_⟩
  rintro ⟨off, uxLen, r, u', w', hrange, -, -, hin⟩
  rw [copiedRange_iff] at hrange
  have hstart : payloadOf (deliveredWorld.mem 7) (receivedWorld.bufs 7).xDataLength = (42, 11) := by decide
  rw [hstart] at hrange
  obtain ⟨rfl, rfl⟩ := hrange
  exact absurd (hin 3 (by decide)) (by decide)

/-! ## Control data -/

/-- **Truncation**: a walk of the control data that the user is given finds whole messages only, unless the end of the
data cuts one behind its header, or the end of a header behind the last one wraps. -/
theorem control_delivered_iff {w w' : World} {t a : Addr} {s : TSNSocket} {x : BaseSocket} {xFlags : Nat}
    (h : TsnSocketOk w t s x) (hb : x.bBound = true) (ha : takenMsgh w s x xFlags = some a) {cs : List ControlMsg}
    {bs : List UInt8} (hbuilt : ControlBuilt cs bs) (hbs : HasControl w a bs) {u u' : UserMsghdr} {r : Int}
    (hrun : (freeRtosTsnRecvmsg t (some u) xFlags).run w = .ok (r, some u') w') :
    GetsControl cs u' ↔ ilp32.NoneCut (givenControllen u (uxControlSpace cs)) 0 cs := by
  obtain ⟨hsize, hfound⟩ := hbuilt.found
  obtain ⟨hlen, hbytes⟩ := recvmsg_control h hb ha hbs hrun
  rw [hsize] at hlen hbytes
  rw [uxControlSpace_eq, GetsControl, hlen]
  have hn := givenControllen_le u (ilp32.totalSpace cs)
  generalize givenControllen u (ilp32.totalSpace cs) = n at *
  -- what is given of a header is the header
  have hhead : List.Forall₂ (fun c cmsg => cmsg + cmsghdrSize ≤ n →
      ilp32.HeaderOf (Mem.ofBytes (u'.msgControl.getD [])) c cmsg) cs (ilp32.offsets 0 cs) :=
    hfound.imp fun c cmsg hmsg hle => hmsg.toHeaderOf.congr fun i hi => hbytes _ (by omega)
  exact DataModel.walk_whole_iff (Nat.zero_add _) hn hbuilt.fits hhead

/-- Control messages with four bytes and with two bytes of data. -/
def twoMsgs : List ControlMsg := [⟨1, 2, [1, 2, 3, 4]⟩, ⟨1, 3, [5, 6]⟩]

def twoBlock : List UInt8 :=
  [16, 0, 0, 0, 1, 0, 0, 0, 2, 0, 0, 0, 1, 2, 3, 4, 14, 0, 0, 0, 1, 0, 0, 0, 3, 0, 0, 0, 5, 6, 0, 0]

def emptyWorld : World := socketWorld.tick.setBlock 1 (some (.msghdr {}))

def filledWorld : World := lastState ((xAncillaryMsgControlFill 1 twoMsgs).run emptyWorld)

/-- The message waits in the error queue of the socket. -/
def erringWorld : World :=
  { filledWorld with
    baseSockets := fun _ => some idleSocket
    errQueues := fun _ => [1] }

theorem filledWorld_run : (xAncillaryMsgControlFill 1 twoMsgs).run emptyWorld = .ok true filledWorld := rfl

theorem twoBlock_built : ControlBuilt twoMsgs twoBlock where
  fits := by decide
  built := ⟨1, emptyWorld, filledWorld, _, 2, filledWorld_run, rfl, rfl, rfl⟩

theorem erringWorld_ok : TsnSocketOk erringWorld 0 ⟨0, 0, 0, 0, 0, 0, 0⟩ idleSocket where
  heapOk := by
    obtain ⟨r, w', m', hrun, hB, -⟩ :=
      xAncillaryMsgControlFill_ok (Building.start socketNode_start.heapOk) twoMsgs (List.cons_ne_nil _ _)
    have hfilled : (xAncillaryMsgControlFill socketNode.w.calls twoMsgs).run
        (socketNode.w.tick.setBlock socketNode.w.calls (some (.msghdr {}))) = .ok true filledWorld := filledWorld_run
    rw [hfilled] at hrun
    cases hrun
    exact ⟨hB.heapOk.toMsgHeap, hB.heapOk.fresh, hB.heapOk.freed, hB.heapOk.freedOnce⟩
  socket := rfl
  base := rfl
  waiting := fun _ h => nomatch h
  errors := by
    refine ⟨?_, List.nodup_singleton 1⟩
    intro e he
    cases List.mem_singleton.mp he
    exact ⟨_, rfl, rfl⟩

/-- A user with room for `n` bytes of control data. -/
def controlUser (n : Nat) : UserMsghdr := ⟨none, 0, none, 0, some (List.replicate n 0), n, 0⟩

theorem erringWorld_run (n : Nat) : ∃ w', (freeRtosTsnRecvmsg 0 (some (controlUser n)) 16384).run erringWorld =
    .ok (0, some { controlUser n with
      msgControl := some (copyTo (List.replicate n 0) (twoBlock.take (min n 32))), msgControllen := min n 32 }) w' :=
  ⟨_, rfl⟩

/-- The end of the data cuts the second message in its header, so that the first one is found alone. -/
theorem control_delivered_first : ∃ u' w', (freeRtosTsnRecvmsg 0 (some (controlUser 24)) 16384).run erringWorld =
    .ok (0, some u') w' ∧ GetsControl twoMsgs u' := by
  obtain ⟨w', hrun⟩ := erringWorld_run 24
  refine ⟨_, w', hrun, ?_⟩
  exact (control_delivered_iff erringWorld_ok rfl rfl twoBlock_built ⟨_, 2, rfl, rfl, rfl, rfl⟩ hrun).mpr (by decide)

/-- With room for the header only, the user finds a message of 16 bytes in 12. -/
theorem control_cut : TsnSocketOk erringWorld 0 ⟨0, 0, 0, 0, 0, 0, 0⟩ idleSocket ∧ ControlBuilt twoMsgs twoBlock ∧
    HasControl erringWorld 1 twoBlock ∧
    ∃ u' w', (freeRtosTsnRecvmsg 0 (some (controlUser 12)) 16384).run erringWorld = .ok (0, some u') w' ∧
      ¬GetsControl twoMsgs u' := by
  obtain ⟨w', hrun⟩ := erringWorld_run 12
  refine ⟨erringWorld_ok, twoBlock_built, ⟨_, 2, rfl, rfl, rfl, rfl⟩, _, w', hrun, ?_⟩
  rintro ⟨l, k, hwalk, hmsgs⟩
  obtain ⟨r, rfl, -⟩ := Walk.some_iff.mp hwalk
  cases k with
  | zero => exact nomatch hmsgs
  | succ k => exact absurd (List.forall₂_cons.mp hmsgs).1.2 (by decide)

end FreeRtosTsn.Packet
