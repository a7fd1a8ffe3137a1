import FreeRtosTsn.Packet.Lemmas.Output
import FreeRtosTsn.Packet.Lemmas.Prepare
import FreeRtosTsn.Packet.Sending
import FreeRtosTsn.Packet.Lemmas.Sockets

/-!
# Sending a datagram

How each exit of `FreeRTOS_TSN_sendto` leaves the node, and what it puts in a queue when the datagram is accepted.
-/

namespace FreeRtosTsn.Packet

open Lib Kernel Scheduler

structure Prepares (w w' : World) : Prop where
  eq : w' = { w with calls := w'.calls, bufs := w'.bufs, mem := w'.mem, cap := w'.cap, overruns := w'.overruns }

instance : IsPreorder World Prepares where
  refl _ := ⟨rfl⟩
  trans w w' w'' h h' := by
    have := h'.eq
    rw [h.eq] at this
    exact ⟨this⟩

theorem run_pxGetNetworkBuffer (w : World) (n : Nat) :
    (pxGetNetworkBufferWithDescriptor n).run w =
      if w.env.pxGetNetworkBufferWithDescriptor w.calls then
        .ok (some w.calls) (((w.tick.setBuf w.calls ⟨.eth w.calls 0, n, none, none, 0, 0, .ipv4 0⟩).setMem w.calls
          w.env.junk).setCap w.calls n)
      else .ok none w.tick := by
  cases h : w.env.pxGetNetworkBufferWithDescriptor w.calls <;>
    simp -implicitDefEqProofs [pxGetNetworkBufferWithDescriptor, nextCall, h]

/-! ## The stages of a send -/

def sendBuf (b : BufId) (x : BaseSocket) (dest : Destination) (n : Nat) : NetworkBufferDescriptor where
  pucEthernetBuffer := .eth b 0
  xDataLength := n
  pxInterface := none
  pxEndPoint := x.pxEndPoint
  usPort := dest.sinPort
  usBoundPort := swap16 x.usLocalPort
  xIPAddress := .ipv4 dest.sinAddress.ulIPv4

section Stages

variable (cfg : Config) (s : TSNSocket) (x : BaseSocket) (dest : Destination) (p : List UInt8) (w : World)

/-- The buffer is there, and its descriptor is filled in. -/
def obtainedWorld : World :=
  ((w.tick.setBuf w.calls (sendBuf w.calls x dest (sendSize cfg s p.length))).setMem w.calls w.env.junk).setCap w.calls
    (sendSize cfg s p.length)

def sendPreparation : Preparation :=
  prvPreparation cfg s (sendBuf w.calls x dest (sendSize cfg s p.length)) w.endPoints
    (w.env.eARPGetCacheEntry dest.sinAddress.ulIPv4)

theorem obtainedWorld_eq : World.setBuf (((w.tick.setBuf w.calls ⟨.eth w.calls 0, sendSize cfg s p.length, none, none, 0, 0,
      .ipv4 0⟩).setMem w.calls w.env.junk).setCap w.calls (sendSize cfg s p.length)) w.calls
      (sendBuf w.calls x dest (sendSize cfg s p.length)) = obtainedWorld cfg s x dest p w := by
  simp [obtainedWorld, World.setBuf, World.setMem, World.setCap]

/-- The headers are written, as far as they are. -/
def preparedWorld : World :=
  wrote ((obtainedWorld cfg s x dest p w).setBuf w.calls (sendPreparation cfg s x dest p w).descriptor) w.calls
    (sendPreparation cfg s x dest p w).fields

/-- The payload is written behind them. -/
def payloadWorld : World := wrote (preparedWorld cfg s x dest p w) w.calls [(42 + socketTagSize cfg s, p)]

theorem prvPreparation_puc (d : NetworkBufferDescriptor) (endPoints : EndPointId → EndPoint)
    (arp : Option (MACAddress × EndPointId)) :
    (prvPreparation cfg s d endPoints arp).descriptor.pucEthernetBuffer = d.pucEthernetBuffer := by
  rcases arp with _ | ⟨xMac, e⟩
  · rfl
  · rw [prvPreparation]
    cases prvTypeField cfg s <;> rfl

theorem preparedWorld_puc : ((preparedWorld cfg s x dest p w).bufs w.calls).pucEthernetBuffer = .eth w.calls 0 := by
  simp only [preparedWorld, wrote_bufs, World.setBuf_bufs, Function.update_self]
  exact prvPreparation_puc ..

theorem run_prepare :
    (prvPrepareBufferUDPv4 cfg s w.calls).run (obtainedWorld cfg s x dest p w) =
      .ok (sendPreparation cfg s x dest p w).bOk (preparedWorld cfg s x dest p w) := by
  have hbuf : (obtainedWorld cfg s x dest p w).bufs w.calls = sendBuf w.calls x dest (sendSize cfg s p.length) := by
    simp [obtainedWorld]
  rw [run_prvPrepareBufferUDPv4 cfg s (by rw [hbuf]; rfl)]
  simp only [hbuf]
  rfl

theorem run_writePayload :
    (writeBytes (.eth w.calls 0) (42 + socketTagSize cfg s) p).run (preparedWorld cfg s x dest p w) =
      .ok () (payloadWorld cfg s x dest p w) := by
  rw [run_writeBytes]
  exact congrArg _ (accessed_setMem_eq_wrote _ w.calls (42 + socketTagSize cfg s, p))

theorem payloadWorld_prepares : Prepares w (payloadWorld cfg s x dest p w) := ⟨rfl⟩

end Stages

/-! ## The exits -/

section Sendto

variable {cfg : Config} {w w' : World} {t : Addr} {s : TSNSocket} {x : BaseSocket} {p : List UInt8} {dest : Destination}

section Exits

variable (hs : w.heap t = some (.tsnSocket s)) (hx : w.baseSockets s.xBaseSocket = some x)

include hs hx

theorem run_sendto_null : (freeRtosTsnSendto cfg t p none).run w = .ok (-errnoEinval) w := by
  rw [freeRtosTsnSendto, run_bind_ok (run_loadTsnSocket hs), run_bind_ok (run_loadBaseSocket hx)]
  rfl

theorem run_sendto_unbound (hb : x.bBound = false) :
    (freeRtosTsnSendto cfg t p (some dest)).run w = .ok (-errnoEbadf) w := by
  rw [freeRtosTsnSendto, run_bind_ok (run_loadTsnSocket hs), run_bind_ok (run_loadBaseSocket hx)]
  simp only [hb]
  rfl

theorem run_sendto_family (hb : x.bBound = true) (h4 : dest.sinFamily ≠ freertosAfInet)
    (h6 : dest.sinFamily ≠ freertosAfInet6) : (freeRtosTsnSendto cfg t p (some dest)).run w = .ok (-errnoEinval) w := by
  rw [freeRtosTsnSendto, run_bind_ok (run_loadTsnSocket hs), run_bind_ok (run_loadBaseSocket hx)]
  simp only [hb, h4, h6, if_false]
  rfl

/-- A buffer that is obtained for IPv6 is released at once. -/
theorem run_sendto_ipv6 (cfg : Config) (p : List UInt8) (hb : x.bBound = true) (h6 : dest.sinFamily = freertosAfInet6) :
    ∃ w', (freeRtosTsnSendto cfg t p (some dest)).run w = .ok (-errnoEagain) w' ∧ w'.queues = w.queues ∧
      w'.overruns = w.overruns ∧ w'.released = w.released ++
        if w.env.pxGetNetworkBufferWithDescriptor w.calls then [(w.calls, .eth w.calls 0)] else [] := by
  rw [freeRtosTsnSendto, run_bind_ok (run_loadTsnSocket hs), run_bind_ok (run_loadBaseSocket hx)]
  simp only [hb, h6, Bool.not_true, Bool.false_eq_true, if_false, if_true]
  cases ha : w.env.pxGetNetworkBufferWithDescriptor w.calls with
  | true =>
      rw [run_bind_ok (by rw [run_pxGetNetworkBuffer, if_pos ha])]
      exact ⟨_, rfl, rfl, rfl, by simp [World.release]⟩
  | false =>
      rw [run_bind_ok (by rw [run_pxGetNetworkBuffer, if_neg (by simp [ha])])]
      exact ⟨_, rfl, rfl, rfl, by simp⟩

theorem run_sendto_ipv4_null (hb : x.bBound = true) (h4 : dest.sinFamily = freertosAfInet)
    (ha : w.env.pxGetNetworkBufferWithDescriptor w.calls = false) :
    (freeRtosTsnSendto cfg t p (some dest)).run w = .ok (-errnoEagain) w.tick := by
  rw [freeRtosTsnSendto, run_bind_ok (run_loadTsnSocket hs), run_bind_ok (run_loadBaseSocket hx)]
  simp only [hb, h4, Bool.not_true, Bool.false_eq_true, if_false, if_true]
  rw [if_neg (by decide), run_bind_ok (by rw [run_pxGetNetworkBuffer, if_neg (by simp [ha])])]
  rfl

/-- With a buffer the send is refused for want of a destination, for its size, for the time, or by the queues. -/
theorem run_sendto_ipv4 (hb : x.bBound = true) (h4 : dest.sinFamily = freertosAfInet)
    (ha : w.env.pxGetNetworkBufferWithDescriptor w.calls = true) :
    (freeRtosTsnSendto cfg t p (some dest)).run w =
      if (sendPreparation cfg s x dest p w).bOk = false then
        .ok (-errnoEagain) ((preparedWorld cfg s x dest p w).release w.calls)
      else if cfg.ipconfigNetworkMtu - 28 < p.length then
        .ok (-errnoEinval) ((preparedWorld cfg s x dest p w).release w.calls)
      else match xTaskCheckForTimeOut x.xSendBlockTime (w.env.uxBlockedTicks (w.calls + 1)) with
        | none => .ok (-errnoEtimedout) ((payloadWorld cfg s x dest p w).release w.calls)
        | some xRemainingTime =>
            match (exec cfg (xNetworkQueueInsertPacketByFilter cfg (sendItem w.calls) xRemainingTime)).run
                (payloadWorld cfg s x dest p w) with
            | .ok true w' => .ok p.length w'
            | .ok false w' => .ok (-errnoEagain) (w'.release w.calls)
            | .error e w' => .error e w' := by
  have hmtu := cfg.mtu_le
  have hmin := cfg.mtu_ge
  rw [freeRtosTsnSendto, run_bind_ok (run_loadTsnSocket hs), run_bind_ok (run_loadBaseSocket hx)]
  simp only [hb, h4, Bool.not_true, Bool.false_eq_true, if_false, if_true]
  rw [if_neg (by decide), run_bind_ok (by rw [run_pxGetNetworkBuffer, if_pos ha]), sub32_of_le (by omega) (by omega)]
  dsimp only
  rw [run_bind_ok (run_modifyBuf _ _ _)]
  have hsend := obtainedWorld_eq cfg s x dest p w
  simp only [sendSize, sendBuf] at hsend
  simp only [World.setCap_bufs, World.setMem_bufs, World.setBuf_bufs, Function.update_self, hsend]
  rw [run_bind_ok (run_prepare cfg s x dest p w)]
  cases (sendPreparation cfg s x dest p w).bOk with
  | false => rfl
  | true =>
      simp only [Bool.not_true, Bool.false_eq_true, if_false]
      by_cases hfit : cfg.ipconfigNetworkMtu - 28 < p.length
      · simp only [hfit, if_true]
        rfl
      · simp only [hfit, if_false]
        rw [run_bind_ok (run_loadBuf _ _), preparedWorld_puc, run_bind_ok (run_writePayload ..),
          run_bind_ok (EStateM.run_get _)]
        have hticks : (payloadWorld cfg s x dest p w).env.uxBlockedTicks (payloadWorld cfg s x dest p w).calls =
            w.env.uxBlockedTicks (w.calls + 1) := rfl
        rw [hticks]
        cases xTaskCheckForTimeOut x.xSendBlockTime (w.env.uxBlockedTicks (w.calls + 1)) with
        | none => rfl
        | some xRemainingTime =>
            simp only [EStateM.run_bind, sendItem]
            cases (exec cfg (xNetworkQueueInsertPacketByFilter cfg ⟨.eNetworkTxEvent, some w.calls, none, true⟩
                xRemainingTime)).run (payloadWorld cfg s x dest p w) with
            | ok bOk w' => cases bOk <;> rfl
            | error e w' => rfl

end Exits

/-- The conditions under which a send with a buffer is accepted. -/
structure SendAccepted (cfg : Config) (s : TSNSocket) (x : BaseSocket) (dest : Destination) (p : List UInt8) (w : World) :
    Prop where
  prepared : (sendPreparation cfg s x dest p w).bOk = true
  fits : p.length ≤ cfg.ipconfigNetworkMtu - 28
  inTime : xTaskCheckForTimeOut x.xSendBlockTime (w.env.uxBlockedTicks (w.calls + 1)) ≠ none
  accepts : Accepts cfg (payloadWorld cfg s x dest p w) (sendItem w.calls)

/-- What a send did that had a buffer. -/
inductive Sent (cfg : Config) (s : TSNSocket) (x : BaseSocket) (dest : Destination) (p : List UInt8) (w : World) :
    Int → World → Prop
  | accepted {w' : World} {q : QueueHandle} : SendAccepted cfg s x dest p w →
      Pushed (payloadWorld cfg s x dest p w) w' q (sendItem w.calls) → Sent cfg s x dest p w p.length w'
  | early {r : Int} : r < 0 → ¬ SendAccepted cfg s x dest p w →
      Sent cfg s x dest p w r ((preparedWorld cfg s x dest p w).release w.calls)
  | late {r : Int} : r < 0 → ¬ SendAccepted cfg s x dest p w → p.length ≤ cfg.ipconfigNetworkMtu - 28 →
      Sent cfg s x dest p w r ((payloadWorld cfg s x dest p w).release w.calls)

theorem run_sendto_sent (cfg : Config) (p : List UInt8) (hs : w.heap t = some (.tsnSocket s))
    (hx : w.baseSockets s.xBaseSocket = some x) (hb : x.bBound = true) (h4 : dest.sinFamily = freertosAfInet)
    (ha : w.env.pxGetNetworkBufferWithDescriptor w.calls = true) :
    ∃ r w', (freeRtosTsnSendto cfg t p (some dest)).run w = .ok r w' ∧ Sent cfg s x dest p w r w' := by
  rw [run_sendto_ipv4 hs hx hb h4 ha]
  by_cases hok : (sendPreparation cfg s x dest p w).bOk = false
  · rw [if_pos hok]
    exact ⟨_, _, rfl, .early (by decide) fun h => by simp [h.prepared] at hok⟩
  rw [if_neg hok]
  by_cases hfit : cfg.ipconfigNetworkMtu - 28 < p.length
  · rw [if_pos hfit]
    exact ⟨_, _, rfl, .early (by decide) fun h => Nat.not_lt.mpr h.fits hfit⟩
  rw [if_neg hfit]
  have hle := Nat.not_lt.mp hfit
  cases htime : xTaskCheckForTimeOut x.xSendBlockTime (w.env.uxBlockedTicks (w.calls + 1)) with
  | none => exact ⟨_, _, rfl, .late (by decide) (fun h => h.inTime htime) hle⟩
  | some xRemainingTime =>
      dsimp only
      by_cases ha : Accepts cfg (payloadWorld cfg s x dest p w) (sendItem w.calls)
      · obtain ⟨w', q, hinsert, -, hpush⟩ := exec_insert_accepted ha xRemainingTime
        rw [hinsert]
        exact ⟨_, _, rfl, .accepted ⟨by simpa using hok, hle, by simp [htime], ha⟩ hpush⟩
      · rw [exec_insert_refused ha xRemainingTime]
        exact ⟨_, _, rfl, .late (by decide) (fun h => ha h.accepts) hle⟩

/-- A send is accepted, or releases what it obtained. -/
theorem sendto_ends (cfg : Config) (p : List UInt8) (dest : Option Destination) (hs : w.heap t = some (.tsnSocket s))
    (hx : w.baseSockets s.xBaseSocket = some x) :
    ∃ r w', (freeRtosTsnSendto cfg t p dest).run w = .ok r w' ∧
      ((∃ d q, dest = some d ∧ sendtoBuffer w x dest = some w.calls ∧ r = p.length ∧ SendAccepted cfg s x d p w ∧
          Pushed (payloadWorld cfg s x d p w) w' q (sendItem w.calls)) ∨
        (r < 0 ∧ w'.queues = w.queues ∧
          w'.released = w.released ++ (sendtoBuffer w x dest).toList.map fun b => (b, .eth b 0))) := by
  cases dest with
  | none => exact ⟨_, _, run_sendto_null hs hx, .inr ⟨by decide, rfl, by simp [sendtoBuffer]⟩⟩
  | some dest =>
      cases hb : x.bBound with
      | false => exact ⟨_, _, run_sendto_unbound hs hx hb, .inr ⟨by decide, rfl, by simp [sendtoBuffer, hb]⟩⟩
      | true =>
          by_cases h6 : dest.sinFamily = freertosAfInet6
          · obtain ⟨w', hrun, hq, -, hrel⟩ := run_sendto_ipv6 hs hx cfg p hb h6
            refine ⟨_, w', hrun, .inr ⟨by decide, hq, ?_⟩⟩
            rw [hrel]
            cases ha : w.env.pxGetNetworkBufferWithDescriptor w.calls <;> simp [sendtoBuffer, hb, h6, ha]
          by_cases h4 : dest.sinFamily = freertosAfInet
          · cases ha : w.env.pxGetNetworkBufferWithDescriptor w.calls with
            | false =>
                exact ⟨_, _, run_sendto_ipv4_null hs hx hb h4 ha, .inr ⟨by decide, rfl, by simp [sendtoBuffer, ha]⟩⟩
            | true =>
                have hbuf : sendtoBuffer w x (some dest) = some w.calls := by simp [sendtoBuffer, hb, h4, ha]
                obtain ⟨r, w', hrun, hsent⟩ := run_sendto_sent cfg p hs hx hb h4 ha
                refine ⟨r, w', hrun, ?_⟩
                cases hsent with
                | accepted hacc hpush => exact .inl ⟨dest, _, rfl, hbuf, rfl, hacc, hpush⟩
                | early hlt =>
                    refine .inr ⟨hlt, rfl, ?_⟩
                    rw [hbuf, World.release_released, preparedWorld_puc]
                    rfl
                | late hlt =>
                    refine .inr ⟨hlt, rfl, ?_⟩
                    rw [hbuf, World.release_released, payloadWorld, wrote_bufs, preparedWorld_puc]
                    rfl
          · exact ⟨_, _, run_sendto_family hs hx hb h4 h6, .inr ⟨by decide, rfl, by simp [sendtoBuffer, h4, h6]⟩⟩

/-- A send that returns the size of its data was accepted. -/
theorem sendto_accepted_inv (hs : w.heap t = some (.tsnSocket s))
    (h : (freeRtosTsnSendto cfg t p (some dest)).run w = .ok p.length w') :
    ∃ x q, w.baseSockets s.xBaseSocket = some x ∧ sendtoBuffer w x (some dest) = some w.calls ∧
      SendAccepted cfg s x dest p w ∧ Pushed (payloadWorld cfg s x dest p w) w' q (sendItem w.calls) := by
  cases hx : w.baseSockets s.xBaseSocket with
  | none =>
      rw [freeRtosTsnSendto, run_bind_ok (run_loadTsnSocket hs)] at h
      obtain ⟨x, w₀, hload, -⟩ := run_bind_inv h
      obtain ⟨-, hsome⟩ := loadBaseSocket_inv hload
      rw [hx] at hsome
      cases hsome
  | some x =>
      obtain ⟨r, w₁, hrun, hends⟩ := sendto_ends cfg p (some dest) hs hx
      cases hrun.symm.trans h
      rcases hends with ⟨d, q, hd, hbuf, -, hacc, hpush⟩ | ⟨hlt, -⟩
      · cases hd
        exact ⟨x, q, rfl, hbuf, hacc, hpush⟩
      · exact absurd hlt (Int.not_lt.mpr (Int.natCast_nonneg _))

/-! ## The frame that is queued -/

/-- The payload size that `prvPrepareBufferUDPv4` computes is the one of the caller, even if the size of the buffer
wrapped. -/
theorem sendSize_payload (cfg : Config) (s : TSNSocket) {n : Nat} (hn : n < 2 ^ 32) :
    sub32 (sub32 (sendSize cfg s n) 42) (socketTagSize cfg s) = n := by
  simp only [sendSize, sub32, wrap32]
  omega

theorem sendSize_of_fits {n : Nat} (h : n + (42 + socketTagSize cfg s) < 2 ^ 32) :
    sendSize cfg s n = n + (42 + socketTagSize cfg s) := wrap32_of_lt h

theorem prvPreparation_ok {d : NetworkBufferDescriptor} {endPoints : EndPointId → EndPoint}
    {arp : Option (MACAddress × EndPointId)} (h : (prvPreparation cfg s d endPoints arp).bOk = true) :
    ∃ xMac e bs, arp = some (xMac, e) ∧ prvTypeField cfg s = some bs := by
  rcases arp with _ | ⟨xMac, e⟩
  · cases h
  · rw [prvPreparation] at h
    cases htype : prvTypeField cfg s with
    | none =>
        rw [htype] at h
        cases h
    | some bs => exact ⟨xMac, e, bs, rfl, rfl⟩

theorem prvTypeField_isSome :
    (prvTypeField cfg s).isSome ↔ (cfg.tsnconfigSocketInsertsVlanTags = true → s.ucVLANTagsCount ≤ 2) := by
  cases hi : cfg.tsnconfigSocketInsertsVlanTags with
  | false => simp [prvTypeField, hi]
  | true =>
      simp only [prvTypeField, hi, if_true, forall_const]
      rcases s.ucVLANTagsCount with _ | _ | _ | k <;> simp

theorem prvPreparation_bOk {d : NetworkBufferDescriptor} {endPoints : EndPointId → EndPoint}
    {arp : Option (MACAddress × EndPointId)} (harp : arp.isSome) :
    (prvPreparation cfg s d endPoints arp).bOk = true ↔
      (cfg.tsnconfigSocketInsertsVlanTags = true → s.ucVLANTagsCount ≤ 2) := by
  obtain ⟨⟨xMac, e⟩, rfl⟩ := Option.isSome_iff_exists.mp harp
  rw [← prvTypeField_isSome, prvPreparation]
  cases prvTypeField cfg s <;> simp

/-- A socket that inserts tags has at most two of them. -/
theorem socketTagSize_le {bs : List UInt8} (h : prvTypeField cfg s = some bs) : socketTagSize cfg s ≤ 8 := by
  rw [socketTagSize]
  cases hi : cfg.tsnconfigSocketInsertsVlanTags with
  | false => simp
  | true =>
      simp only [prvTypeField, hi, if_true] at h
      rcases hcount : s.ucVLANTagsCount with _ | _ | _ | k <;> rw [hcount] at h <;> cases h <;> decide

/-- The buffer of a datagram that is accepted holds its headers, the payload and the padding. -/
structure SentFrame (cfg : Config) (s : TSNSocket) (x : BaseSocket) (dest : Destination) (p : List UInt8) (w : World)
    (xMac : MACAddress) (e : EndPointId) (bs : List UInt8) : Prop where
  arp : w.env.eARPGetCacheEntry dest.sinAddress.ulIPv4 = some (xMac, e)
  types : prvTypeField cfg s = some bs
  mem : (payloadWorld cfg s x dest p w).mem w.calls = (Mem.write w.env.junk 0 (List.replicate 6 0)).writeAll
    (sentFields cfg s (sendBuf w.calls x dest (p.length + (42 + socketTagSize cfg s))) (w.endPoints e) xMac bs p
      (socketTagSize cfg s))
  xDataLength : ((payloadWorld cfg s x dest p w).bufs w.calls).xDataLength =
    max (p.length + (42 + socketTagSize cfg s)) cfg.ipconfigEthernetMinimumPacketBytes

theorem SendAccepted.frame (h : SendAccepted cfg s x dest p w) : ∃ xMac e bs, SentFrame cfg s x dest p w xMac e bs := by
  have hmtu := cfg.mtu_le
  have hmin := cfg.mtu_ge
  have hfits := h.fits
  obtain ⟨xMac, e, bs, harp, htypes⟩ := prvPreparation_ok h.prepared
  have htags := socketTagSize_le htypes
  have hsize : sendSize cfg s p.length = p.length + (42 + socketTagSize cfg s) := sendSize_of_fits (by omega)
  have hpay := sendSize_payload cfg s (show p.length < 2 ^ 32 by omega)
  have hprep : sendPreparation cfg s x dest p w = prvPreparation cfg s _ _ _ := rfl
  rw [harp, prvPreparation, htypes] at hprep
  refine ⟨xMac, e, bs, harp, htypes, ?_, ?_⟩
  · simp only [payloadWorld, preparedWorld, hprep, wrote_wrote, wrote_mem, Function.update_self, World.setBuf_mem]
    rw [hsize] at hpay
    simp only [sendBuf, hpay, hsize]
    simp [Mem.writeAll, sentFields, obtainedWorld, prvIpFields]
  · simp [payloadWorld, preparedWorld, hprep, hsize, sendBuf]

/-! ## What the receiver looks at -/

/-- The fields of a datagram over IPv4 with `n` bytes of payload, as far as they are looked at. -/
structure UdpHeaders (m : Mem) (usPort : UInt16) (n : Nat) : Prop where
  usFrameType : m.load16 ethFrameType = ipIPv4FrameType
  ucProtocol : m (ipSizeOfEthHeader + 9) = ipProtocolUdp
  usDestinationPort : m.load16 (sizeOfIPPacket + 2) = usPort
  usLength : m.load16 (sizeOfIPPacket + 4) = swap16 (UInt16.ofNat (n + 8))

theorem UdpHeaders.congr {m m' : Mem} {usPort : UInt16} {n : Nat} (h : UdpHeaders m usPort n)
    (hm : ∀ i < sizeOfIPPacket + ipSizeOfUdpHeader, m' i = m i) : UdpHeaders m' usPort n := by
  have hword : ∀ i, i + 2 ≤ sizeOfIPPacket + ipSizeOfUdpHeader → m'.load16 i = m.load16 i := fun i hi =>
    Mem.load16_congr fun k hk => hm (i + k) (by omega)
  constructor
  · rw [hword _ (by decide), h.usFrameType]
  · rw [hm _ (by decide), h.ucProtocol]
  · rw [hword _ (by decide), h.usDestinationPort]
  · rw [hword _ (by decide), h.usLength]

/-- The frame of the payload `p`, in a buffer whose length is `uxLength`. -/
structure DatagramFrame (m : Mem) (uxLength : Nat) (p : List UInt8) (usPort : UInt16) : Prop
    extends UdpHeaders m usPort p.length where
  payload : m.read (sizeOfIPPacket + ipSizeOfUdpHeader) p.length = p
  uxLength : sizeOfIPPacket + ipSizeOfUdpHeader + p.length ≤ uxLength

/-- Without tags the fields are where the receiver looks for them. -/
theorem datagramFrame_sent (d : NetworkBufferDescriptor) (ep : EndPoint) (xMac : MACAddress) (m : Mem) {n : Nat}
    (hn : p.length + 42 ≤ n) :
    DatagramFrame (m.writeAll (sentFields cfg s d ep xMac (bytes16 ipIPv4FrameType) p 0)) n p d.usPort := by
  have hfield : ∀ f ∈ sentFields cfg s d ep xMac (bytes16 ipIPv4FrameType) p 0,
      (m.writeAll (sentFields cfg s d ep xMac (bytes16 ipIPv4FrameType) p 0)).read f.1 f.2.length = f.2 :=
    fun f hf => Mem.writeAll_read (sentFields_separate cfg s d ep xMac p rfl) hf m
  have hsub : sentLayout cfg s d ep xMac (bytes16 ipIPv4FrameType) p 0 ⊆
      sentFields cfg s d ep xMac (bytes16 ipIPv4FrameType) p 0 := sentLayout_subset cfg s d ep xMac p
  refine ⟨⟨?_, ?_, ?_, ?_⟩, ?_, ?_⟩
  · exact Mem.load16_of_read (hfield (12, bytes16 ipIPv4FrameType) (hsub (by simp [sentLayout])))
  · have hproto := hfield (14 + 0 + 9, [ipProtocolUdp]) (hsub (by simp [sentLayout]))
    exact (List.cons_eq_cons.mp hproto).1
  · exact Mem.load16_of_read (hfield (14 + 0 + 20 + 2, bytes16 d.usPort) (hsub (by simp [sentLayout])))
  · exact Mem.load16_of_read (hfield (14 + 0 + 20 + 4, bytes16 (swap16 (UInt16.ofNat (p.length + 8))))
      (hsub (by simp [sentLayout])))
  · exact hfield (42 + 0, p) (hsub (by simp [sentLayout]))
  · exact (Nat.add_comm _ _).trans_le hn

theorem prvTypeField_untagged (htag : socketTagSize cfg s = 0) {bs : List UInt8} (h : prvTypeField cfg s = some bs) :
    bs = bytes16 ipIPv4FrameType := by
  cases hi : cfg.tsnconfigSocketInsertsVlanTags with
  | false =>
      simp only [prvTypeField, hi, Bool.false_eq_true, if_false, Option.some.injEq] at h
      exact h.symm
  | true =>
      simp only [socketTagSize, hi, if_true, vlanTagSize] at htag
      have hcount : s.ucVLANTagsCount = 0 := by omega
      simp only [prvTypeField, hi, if_true, hcount, Option.some.injEq] at h
      exact h.symm

/-- The frame is in a new buffer, and was pushed to some queue. -/
theorem freeRtosTsnSendto_accepted (hs : w.heap t = some (.tsnSocket s)) (htag : socketTagSize cfg s = 0)
    (h : (freeRtosTsnSendto cfg t p (some dest)).run w = .ok p.length w') :
    ∃ w₁ q, Prepares w w₁ ∧ DatagramFrame (w₁.mem w.calls) (w₁.bufs w.calls).xDataLength p dest.sinPort ∧
      Pushed w₁ w' q ⟨.eNetworkTxEvent, some w.calls, none, true⟩ := by
  obtain ⟨x, q, hx, -, hacc, hpush⟩ := sendto_accepted_inv hs h
  obtain ⟨xMac, e, bs, hframe⟩ := hacc.frame
  refine ⟨_, q, payloadWorld_prepares cfg s x dest p w, ?_, hpush⟩
  obtain rfl := prvTypeField_untagged htag hframe.types
  rw [hframe.mem, hframe.xDataLength, htag]
  exact datagramFrame_sent _ _ _ _ (Nat.le_max_left _ _)

end Sendto

end FreeRtosTsn.Packet
