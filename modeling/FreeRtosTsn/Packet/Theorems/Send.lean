import FreeRtosTsn.Packet.Lemmas.Layout
import FreeRtosTsn.Packet.Lemmas.SendBounds
import FreeRtosTsn.Packet.Theorems

/-!
# Main results on sending

A send is accepted as a whole or leaves nothing behind, and the frame that it queues is the one that it was asked for.
-/

namespace FreeRtosTsn.Packet

open Lib Kernel Scheduler

/-! ## The frame -/

/-- **Frame layout**: the buffer that an accepted send queues is the frame that was asked for, and zeros. -/
theorem sendto_frame_layout {cfg : Config} {w w' : World} {t : Addr} {s : TSNSocket} {x : BaseSocket} {p : List UInt8}
    {dest : Destination} (hs : w.heap t = some (.tsnSocket s)) (hx : w.baseSockets s.xBaseSocket = some x)
    (hmtu : cfg.ipconfigNetworkMtu ≤ 65535) (hds : s.ucDSClass.toNat < 64)
    (h : (freeRtosTsnSendto cfg t p (some dest)).run w = .ok p.length w') :
    ∃ b q xMac e, sendtoBuffer w x (some dest) = some b ∧
      w'.queues = Function.update w.queues q (w.queues q ++ [sendItem b]) ∧
      w.env.eARPGetCacheEntry dest.sinAddress.ulIPv4 = some (xMac, e) ∧
      (w'.bufs b).xDataLength =
        max (42 + 4 * (socketTags cfg s).length + p.length) cfg.ipconfigEthernetMinimumPacketBytes ∧
      Ethernet.parse ((w'.mem b).read 0 (w'.bufs b).xDataLength) =
        some (sentDatagram cfg s x dest (w.endPoints e) xMac p,
          List.replicate ((w'.bufs b).xDataLength - (42 + 4 * (socketTags cfg s).length + p.length)) 0) ∧
      (w'.mem b).read (42 + 4 * (socketTags cfg s).length) p.length = p := by
  obtain ⟨x', q, hx', hbuf, hacc, hpush⟩ := sendto_accepted_inv hs h
  cases hx.symm.trans hx'
  have hmin := cfg.mtu_ge
  have hfits := hacc.fits
  obtain ⟨xMac, e, bs, hframe⟩ := hacc.frame
  obtain ⟨-, hsize⟩ := prvTypeField_eq hframe.types
  have hlen := hframe.xDataLength
  have hread := hframe.read_eq (by omega)
  have hpay := hframe.payload
  rw [hsize] at hlen hread hpay
  have hcomm : p.length + (42 + 4 * (socketTags cfg s).length) = 42 + 4 * (socketTags cfg s).length + p.length :=
    Nat.add_comm _ _
  have hpad : cfg.ipconfigEthernetMinimumPacketBytes - (p.length + (42 + 4 * (socketTags cfg s).length)) =
      max (p.length + (42 + 4 * (socketTags cfg s).length)) cfg.ipconfigEthernetMinimumPacketBytes -
        (42 + 4 * (socketTags cfg s).length + p.length) := by omega
  rw [hpad, ← hlen] at hread
  refine ⟨w.calls, q, xMac, e, hbuf, ?_, hframe.arp, ?_, ?_, ?_⟩
  · rw [hpush.eq]
    rfl
  · rw [hpush.eq, ← hcomm]
    exact hlen
  · rw [hpush.eq]
    dsimp only
    rw [hread]
    exact Ethernet.parse_bytes (sentDatagram_valid hds (by omega)) _
  · rw [hpush.eq]
    exact hpay

def taggedConfig (cfg : Config) : Config :=
  { cfg with
    tsnconfigWrapperInsertsVlanTags := false
    tsnconfigSocketInsertsVlanTags := true
    ipconfigEthernetMinimumPacketBytes := 60
    tags_exclusive := rfl }

/-- A socket with a tag of each kind, and a class for expedited forwarding. -/
def taggedSocket : TSNSocket := ⟨0, 0, 2, 0x6001, 0xA002, 46, 0⟩

def taggedWorld : World := { senderWorld with heap := fun a => if a = 0 then some (.tsnSocket taggedSocket) else none }

/-- A short payload is sent with both tags and padded. -/
theorem sendto_frame_layout_tagged : ∃ w',
    (freeRtosTsnSendto (taggedConfig {}) 0 [1, 2, 3] (some ⟨2, swap16 80, .ipv4 0⟩)).run taggedWorld = .ok 3 w' ∧
      (w'.bufs 1).xDataLength = 60 ∧
      Ethernet.parse ((w'.mem 1).read 0 60) = some (sentDatagram (taggedConfig {}) taggedSocket
        ⟨true, 0, [], false, 0, 10, none⟩ ⟨2, swap16 80, .ipv4 0⟩ (taggedWorld.endPoints 0) (Vector.replicate 6 0) [1, 2, 3],
        List.replicate 7 0) := by
  have hrun : (freeRtosTsnSendto (taggedConfig {}) 0 [1, 2, 3] (some ⟨2, swap16 80, .ipv4 0⟩)).run taggedWorld =
      .ok 3 _ := eq_ok_of_valueOf (by decide +kernel)
  obtain ⟨b, q, xMac, e, hb, -, harp, hlen, hparse, -⟩ := sendto_frame_layout (s := taggedSocket)
    (x := ⟨true, 0, [], false, 0, 10, none⟩) rfl rfl (by decide) (by decide) hrun
  cases harp
  cases hb
  rw [hlen] at hparse
  exact ⟨_, hrun, hlen, hparse⟩

/-! ## All or nothing -/

/-- One item was added to one queue. -/
def Queued (q : QueueHandle) (xItem : NetworkQueueItem) (w w' : World) : Prop :=
  w'.queues = Function.update w.queues q (w.queues q ++ [xItem])

/-- **All or nothing**: the result of a send is its size exactly when one item with its buffer was queued; otherwise it
is negative, nothing was queued, and the buffer was released once if there is one. -/
theorem sendto_all_or_nothing (cfg : Config) {w : World} {t : Addr} {s : TSNSocket} {x : BaseSocket} (p : List UInt8)
    (dest : Option Destination) (hs : w.heap t = some (.tsnSocket s)) (hx : w.baseSockets s.xBaseSocket = some x) :
    ∃ r w', (freeRtosTsnSendto cfg t p dest).run w = .ok r w' ∧ (0 ≤ r ↔ ∃ q xItem, Queued q xItem w w') ∧
      (0 ≤ r → r = p.length ∧ w'.released = w.released ∧
        ∃ b q, sendtoBuffer w x dest = some b ∧ Queued q ⟨.eNetworkTxEvent, some b, none, true⟩ w w') ∧
      (r < 0 → w'.queues = w.queues ∧
        w'.released = w.released ++ (sendtoBuffer w x dest).toList.map fun b => (b, .eth b 0)) := by
  obtain ⟨r, w', hrun, hends⟩ := sendto_ends cfg p dest hs hx
  refine ⟨r, w', hrun, ?_⟩
  rcases hends with ⟨d, q, rfl, hb, rfl, -, hpush⟩ | ⟨hr, hqueues, hrel⟩
  · have hnonneg : (0 : Int) ≤ p.length := Int.natCast_nonneg _
    have hq : Queued q (sendItem w.calls) w w' := by rw [hpush.eq]; rfl
    have hrel : w'.released = w.released := by rw [hpush.eq]; rfl
    exact ⟨iff_of_true hnonneg ⟨q, _, hq⟩, fun _ => ⟨rfl, hrel, _, q, hb, hq⟩, fun h => absurd hnonneg (Int.not_le.mpr h)⟩
  · refine ⟨iff_of_false (Int.not_le.mpr hr) ?_, fun h => absurd hr (Int.not_lt.mpr h), fun _ => ⟨hqueues, hrel⟩⟩
    rintro ⟨q, xItem, hq⟩
    have hsame := congrFun (hqueues.symm.trans hq) q
    simp at hsame

theorem sendto_all_or_nothing_three : ∃ q, Queued q ⟨.eNetworkTxEvent, some 1, none, true⟩ senderWorld sentWorld := by
  obtain ⟨r, w', hrun, -, hpos, -⟩ := sendto_all_or_nothing {} (w := senderWorld) (t := 0)
    (s := ⟨0, 0, 0, 0, 0, 0, 0⟩) (x := ⟨true, 0, [], false, 0, 10, none⟩) [1, 2, 3] (some ⟨2, swap16 80, .ipv4 0⟩) rfl rfl
  cases hrun.symm.trans sentWorld_sent.accepted
  obtain ⟨-, -, b, q, hb, hq⟩ := hpos (by decide)
  cases hb
  exact ⟨q, hq⟩

/-! ## Success -/

/-- `xTaskCheckForTimeOut` before any tick has passed. -/
theorem xTaskCheckForTimeOut_zero {xTicksToWait : Nat} : xTaskCheckForTimeOut xTicksToWait 0 ≠ none ↔ xTicksToWait ≠ 0 := by
  rw [xTaskCheckForTimeOut]
  split
  · rename_i h
    simp [h, portMaxDelay]
  · split
    · rename_i h
      simp [Nat.ne_of_gt h]
    · rename_i h
      simp [Nat.eq_zero_of_not_pos h]

/-- **A send that can succeed** does so exactly when its block time is not zero, its socket has no more than two tags to
insert, and the queue that is chosen for the frame is among those with room. -/
theorem sendto_succeeds_iff {cfg : Config} {w : World} {t : Addr} {s : TSNSocket} {x : BaseSocket} {p : List UInt8}
    {dest : Destination} (hs : w.heap t = some (.tsnSocket s)) (hx : w.baseSockets s.xBaseSocket = some x)
    (hb : x.bBound = true) (h4 : dest.sinFamily = freertosAfInet)
    (harp : (w.env.eARPGetCacheEntry dest.sinAddress.ulIPv4).isSome) (hp : p.length ≤ cfg.ipconfigNetworkMtu - 28)
    (ha : w.env.pxGetNetworkBufferWithDescriptor w.calls = true) (hticks : ∀ n, w.env.uxBlockedTicks n = 0)
    {d : NetworkBufferDescriptor} {m : Mem} (hd : (payloadWorld cfg s x dest p w).bufs w.calls = d)
    (hm : (payloadWorld cfg s x dest p w).mem w.calls = m)
    (hroom : ∃ q ∈ w.pxNetworkQueueList, NetworkQueue.Admits (sendItem w.calls) (some (d, m)) q = true ∧
      (w.queues q.xQueue).length < cfg.ipconfigEventQueueLength) :
    (∃ q w', (freeRtosTsnSendto cfg t p (some dest)).run w = .ok p.length w' ∧ Queued q (sendItem w.calls) w w') ↔
      x.xSendBlockTime ≠ 0 ∧ (cfg.tsnconfigSocketInsertsVlanTags = true → s.ucVLANTagsCount ≤ 2) ∧
        ∀ q, Chosen (sendItem w.calls) (some (d, m)) w.pxNetworkQueueList q →
          (w.queues q.xQueue).length < cfg.ipconfigEventQueueLength := by
  subst hd hm
  obtain ⟨r, w', hrun, hsent⟩ := run_sendto_sent cfg p hs hx hb h4 ha
  have hresult : (∃ q w', (freeRtosTsnSendto cfg t p (some dest)).run w = .ok p.length w' ∧
      Queued q (sendItem w.calls) w w') ↔ SendAccepted cfg s x dest p w := by
    constructor
    · rintro ⟨q, w₁, hrun₁, -⟩
      cases hrun.symm.trans hrun₁
      cases hsent with
      | accepted hacc => exact hacc
      | early hlt => exact absurd hlt (Int.not_lt.mpr (Int.natCast_nonneg _))
      | late hlt => exact absurd hlt (Int.not_lt.mpr (Int.natCast_nonneg _))
    · intro hacc
      cases hsent with
      | accepted _ hpush => exact ⟨_, w', hrun, by rw [hpush.eq]; rfl⟩
      | early _ hno => exact absurd hacc hno
      | late _ hno => exact absurd hacc hno
  rw [hresult, ← xTaskCheckForTimeOut_zero, ← prvPreparation_bOk harp]
  have hchosen : Accepts cfg (payloadWorld cfg s x dest p w) (sendItem w.calls) ↔
      ∀ q, Chosen (sendItem w.calls)
        (some ((payloadWorld cfg s x dest p w).bufs w.calls, (payloadWorld cfg s x dest p w).mem w.calls))
        w.pxNetworkQueueList q → (w.queues q.xQueue).length < cfg.ipconfigEventQueueLength := by
    constructor
    · rintro ⟨q, hq, hfree⟩ q' hq'
      cases hq.symm.trans (prvChooseQueue_iff.mpr hq')
      exact hfree
    · intro hall
      obtain ⟨q, hq, hadmits, -⟩ := hroom
      cases hc : prvChooseQueue (sendItem w.calls)
          (some ((payloadWorld cfg s x dest p w).bufs w.calls, (payloadWorld cfg s x dest p w).mem w.calls)) none
          w.pxNetworkQueueList with
      | none =>
          rw [prvChooseQueue_foldl] at hc
          rw [argmax_filter_eq_none.mp hc q hq] at hadmits
          cases hadmits
      | some q' => exact ⟨q', hc, hall q' (prvChooseQueue_iff.mp hc)⟩
  rw [← hchosen]
  constructor
  · intro hacc
    have htime := hacc.inTime
    rw [hticks] at htime
    exact ⟨htime, hacc.prepared, hacc.accepts⟩
  · rintro ⟨htime, hprep, haccepts⟩
    rw [← hticks (w.calls + 1)] at htime
    exact ⟨hprep, hp, htime, haccepts⟩

/-- `senderWorld` with another block time. -/
def blockingWorld (xSendBlockTime : Nat) : World :=
  { senderWorld with baseSockets := fun _ => some ⟨true, 0, [], false, 0, xSendBlockTime, none⟩ }

theorem sendto_succeeds_blocking : ∃ q w',
    (freeRtosTsnSendto {} 0 [1, 2, 3] (some ⟨2, swap16 80, .ipv4 0⟩)).run (blockingWorld 1) = .ok 3 w' ∧
      Queued q (sendItem 1) (blockingWorld 1) w' := by
  refine (sendto_succeeds_iff (p := [1, 2, 3]) (s := ⟨0, 0, 0, 0, 0, 0, 0⟩) (x := ⟨true, 0, [], false, 0, 1, none⟩) rfl rfl rfl rfl
    rfl (by decide) rfl (fun _ => rfl) rfl rfl ⟨anyQueue, List.mem_singleton_self _, rfl, by decide⟩).mpr
      ⟨by decide, fun _ => Nat.zero_le 2, fun q hq => ?_⟩
  rw [List.mem_singleton.mp hq.mem]
  decide

/-- With a block time of zero the send times out before any tick has passed. -/
theorem sendto_times_out : (blockingWorld 0).env.pxGetNetworkBufferWithDescriptor 1 = true ∧
    ((blockingWorld 0).env.eARPGetCacheEntry 0).isSome ∧ (blockingWorld 0).pxNetworkQueueList = [anyQueue] ∧
    (blockingWorld 0).queues 0 = [] ∧ (∀ n, (blockingWorld 0).env.uxBlockedTicks n = 0) ∧
    ∃ w', (freeRtosTsnSendto {} 0 [1, 2, 3] (some ⟨2, swap16 80, .ipv4 0⟩)).run (blockingWorld 0) =
      .ok (-errnoEtimedout) w' ∧ w'.queues = (blockingWorld 0).queues := by
  have hrun : (freeRtosTsnSendto {} 0 [1, 2, 3] (some ⟨2, swap16 80, .ipv4 0⟩)).run (blockingWorld 0) =
      .ok (-errnoEtimedout) _ := eq_ok_of_valueOf (by decide +kernel)
  refine ⟨rfl, rfl, rfl, rfl, fun _ => rfl, _, hrun, ?_⟩
  obtain ⟨r, w', hrun', hends⟩ := sendto_ends (w := blockingWorld 0) (t := 0) (s := ⟨0, 0, 0, 0, 0, 0, 0⟩)
    (x := ⟨true, 0, [], false, 0, 0, none⟩) {} [1, 2, 3] (some ⟨2, swap16 80, .ipv4 0⟩) rfl rfl
  cases hrun.symm.trans hrun'
  rcases hends with ⟨d, q, -, -, hr, -⟩ | ⟨-, hqueues, -⟩
  · cases hr
  · exact hqueues

/-! ## Bounds -/

/-- **Bounds of a send**: it writes within its buffer exactly when the frame has room in it, and the size of the payload
that it computes is always the one it was given. -/
theorem sendto_in_bounds_iff (cfg : Config) {w : World} {t : Addr} {s : TSNSocket} {x : BaseSocket} {p : List UInt8}
    (dest : Option Destination) (hs : w.heap t = some (.tsnSocket s)) (hx : w.baseSockets s.xBaseSocket = some x)
    (hp : p.length < 2 ^ 32) (hk : cfg.tsnconfigSocketInsertsVlanTags = true → s.ucVLANTagsCount ≤ 2) :
    ∃ r w', (freeRtosTsnSendto cfg t p dest).run w = .ok r w' ∧
      (AccessesWithin w.calls (max (sendSize cfg s p.length) cfg.ipconfigEthernetMinimumPacketBytes) w w' ↔
        SendFits cfg s x dest p.length w) ∧
      sub32 (sub32 (sendSize cfg s p.length) 42) (socketTagSize cfg s) = p.length := by
  have hpayload := sendSize_payload cfg s hp
  have hnone : ∀ {w' : World}, w'.overruns = w.overruns → (∀ d, dest = some d → d.sinFamily = freertosAfInet →
      ¬(sendtoBuffer w x dest).isSome) → (AccessesWithin w.calls
        (max (sendSize cfg s p.length) cfg.ipconfigEthernetMinimumPacketBytes) w w' ↔ SendFits cfg s x dest p.length w) :=
    fun hover hbuf => iff_of_true ⟨[], by rw [hover, List.append_nil], by simp⟩
      fun d hd h4 hsome => absurd hsome (hbuf d hd h4)
  cases dest with
  | none => exact ⟨_, _, run_sendto_null hs hx, hnone rfl (by simp), hpayload⟩
  | some dest =>
      cases hb : x.bBound with
      | false => exact ⟨_, _, run_sendto_unbound hs hx hb, hnone rfl (by simp [sendtoBuffer, hb]), hpayload⟩
      | true =>
          by_cases h6 : dest.sinFamily = freertosAfInet6
          · obtain ⟨w', hrun, -, hover, -⟩ := run_sendto_ipv6 hs hx cfg p hb h6
            exact ⟨_, w', hrun, hnone hover (by rintro _ ⟨⟩ h4; rw [h6] at h4; cases h4), hpayload⟩
          by_cases h4 : dest.sinFamily = freertosAfInet
          · cases ha : w.env.pxGetNetworkBufferWithDescriptor w.calls with
            | false => exact ⟨_, _, run_sendto_ipv4_null hs hx hb h4 ha, hnone rfl (by simp [sendtoBuffer, ha]), hpayload⟩
            | true =>
                obtain ⟨r, w', hrun, hsent⟩ := run_sendto_sent cfg p hs hx hb h4 ha
                have htype : prvTypeField cfg s ≠ none := Option.isSome_iff_ne_none.mp (prvTypeField_isSome.mpr hk)
                refine ⟨r, w', hrun, ?_, hpayload⟩
                rw [sent_within_iff hsent htype hp]
                constructor
                · rintro hfits _ ⟨⟩ - -
                  exact hfits
                · exact fun hfits => hfits dest rfl h4 (by simp [sendtoBuffer, hb, h4, ha])
          · exact ⟨_, _, run_sendto_family hs hx hb h4 h6, hnone rfl (by rintro _ ⟨⟩ h; exact absurd h h4), hpayload⟩

theorem sendto_in_bounds_three : ∃ r w',
    (freeRtosTsnSendto {} 0 [1, 2, 3] (some ⟨2, swap16 80, .ipv4 0⟩)).run senderWorld = .ok r w' ∧
      AccessesWithin 1 45 senderWorld w' := by
  obtain ⟨r, w', hrun, hiff, -⟩ := sendto_in_bounds_iff {} (w := senderWorld) (t := 0) (s := ⟨0, 0, 0, 0, 0, 0, 0⟩)
    (x := ⟨true, 0, [], false, 0, 10, none⟩) (p := [1, 2, 3]) (some ⟨2, swap16 80, .ipv4 0⟩) rfl rfl (by decide)
    (fun _ => Nat.zero_le 2)
  refine ⟨r, w', hrun, hiff.mpr ?_⟩
  rintro _ ⟨⟩ - -
  exact .inl (by decide)

/-- For `2 ^ 32 - 1` bytes a buffer of 41 bytes is obtained, and the headers take 42. -/
theorem sendto_overflows : ∃ p : List UInt8, p.length = 2 ^ 32 - 1 ∧ ∃ r w',
    (freeRtosTsnSendto {} 0 p (some ⟨2, swap16 80, .ipv4 0⟩)).run senderWorld = .ok r w' ∧
      sendSize {} ⟨0, 0, 0, 0, 0, 0, 0⟩ p.length = 41 ∧ ¬AccessesWithin 1 41 senderWorld w' := by
  obtain ⟨p, hp⟩ : ∃ p : List UInt8, p.length = 2 ^ 32 - 1 := ⟨List.replicate (2 ^ 32 - 1) 0, List.length_replicate⟩
  have h4 : (⟨2, swap16 80, .ipv4 0⟩ : Destination).sinFamily = freertosAfInet := rfl
  obtain ⟨r, w', hrun, hsent⟩ := run_sendto_sent (w := senderWorld) (t := 0) (s := ⟨0, 0, 0, 0, 0, 0, 0⟩)
    (x := ⟨true, 0, [], false, 0, 10, none⟩) {} p rfl rfl rfl h4 rfl
  have hsize : sendSize {} ⟨0, 0, 0, 0, 0, 0, 0⟩ p.length = 41 := by rw [hp]; decide
  refine ⟨p, hp, r, w', hrun, hsize, fun hwithin => ?_⟩
  have hfits := (sent_within_iff hsent (by decide) (by rw [hp]; decide)).mp (by rw [hsize]; exact hwithin)
  rw [hp] at hfits
  exact absurd hfits (by decide)

end FreeRtosTsn.Packet
