import FreeRtosTsn.Packet.Lemmas.Control
import FreeRtosTsn.Packet.Lemmas.Datagram
import FreeRtosTsn.Packet.Received

/-!
# What the user is given of a message
-/

namespace FreeRtosTsn.Packet

open Lib Kernel

variable {w w' : World} {a : Addr} {m : Msghdr} {u u' : UserMsghdr} {c : ControlMsg} {cs : List ControlMsg}
  {bs bs' : List UInt8} {off : Nat}

/-! ## The payload -/

section Payload

variable {v v₁ : World} {b : BufId} {xItem : NetworkQueueItem}

/-- What a reception with the message at `a` leaves: the frame without its tags, and a message that refers to it. -/
structure MessageLeft (v v₁ : World) (b : BufId) (a : Addr) (m : Msghdr) : Prop where
  heapOk : HeapOk v₁
  mem : v₁.mem b = strippedMem (v.mem b) (v.bufs b).xDataLength
  pucEthernetBuffer : (v₁.bufs b).pucEthernetBuffer = .eth b 0
  msghdr : v₁.heap a = some (.msghdr m)
  msgFlags : m.msgFlags = 0
  named : (v₁.mem b).load16 ethFrameType = ipIPv4FrameType → (∀ n, v.env.pvPortMalloc n = true) →
    NamedBy v₁ m ⟨4, freertosAfInet, (portsOf (v₁.mem b)).1, 0, destinationOf (v₁.mem b)⟩
  vector : (∃ i, Carries v₁ a b m i (v₁.bufs b).xDataLength) ∨ m.msgIov = none

theorem prvHandleReceive_message (hv : HeapOk v) (htb : TimebaseOk v) (hsock : SocketsOk v)
    (hp : (v.bufs b).pucEthernetBuffer = .eth b 0) (h : (prvHandleReceive b).run v = .ok (some xItem) v₁)
    (ha : xItem.pxMsgh = some a) : xItem.pxBuf = some b ∧ ∃ m, MessageLeft v v₁ b a m := by
  obtain ⟨-, w₀, w₁, -, hremoved, hparse, hfs, hmem, hbuf⟩ := run_prvParseFrame hp
  generalize hf : parsedOf (w₀.mem b) = f at hparse
  have hnone : ∀ {ok : Bool}, (if ok then some (rxItem b none) else none) = some xItem → False := by
    intro ok hr
    cases ok with
    | true =>
        cases hr
        exact nomatch ha
    | false => exact nomatch hr
  have hheap : w₁.heap = v.heap := by rw [hfs.eq]
  have hlist : w₁.xTSNBoundUDPSocketList = v.xTSNBoundUDPSocketList := by rw [hfs.eq]
  have henv : w₁.env = v.env := by rw [hfs.eq]
  by_cases h0 : f.usDestinationPort = 0
  · obtain ⟨w', hrun, -⟩ := prvHandleReceive_plain (hfs.heapOk hv) hparse (.inl h0)
    rw [hrun] at h
    simp only [EStateM.Result.ok.injEq] at h
    exact absurd h.1 hnone
  · cases hl : prvLookup f.usDestinationPort w₁.xTSNBoundUDPSocketList with
    | none =>
        by_cases hk : prvLookup f.usDestinationPort w₁.xBoundUDPSocketsList = none
        · rw [prvHandleReceive_unbound hparse h0 hl hk] at h
          exact nomatch h
        · obtain ⟨w', hrun, -⟩ := prvHandleReceive_plain (hfs.heapOk hv) hparse (.inr ⟨hl, hk⟩)
          rw [hrun] at h
          simp only [EStateM.Result.ok.injEq] at h
          exact absurd h.1 hnone
    | some t =>
        obtain ⟨s, hs⟩ := hsock (_, t) (by rw [← hlist]; exact prvLookup_mem hl)
        cases hm : w₁.env.pvPortMalloc w₁.calls with
        | false =>
            rw [prvHandleReceive_tsn_null hparse h0 hl (by rw [hheap]; exact hs) hm] at h
            exact nomatch h
        | true =>
            obtain ⟨w', n, m, hrun, he, hmsg, hflags, hname, hiov⟩ := prvHandleReceive_tsn (hfs.heapOk hv)
              (hfs.timebaseOk htb) hparse h0 hl (by rw [hheap]; exact hs) (hfs.pucEthernetBuffer.trans hp) hm
            rw [hrun] at h
            split at h
            · cases h
              cases ha
              have hmem' : v₁.mem = w₀.mem := he.step.mem.trans hmem
              refine ⟨rfl, m, he.heapOk, ?_, ?_, hmsg, hflags, ?_, ?_⟩
              · rw [hmem', hremoved.mem]
                rfl
              · rw [he.step.bufs]
                exact hfs.pucEthernetBuffer.trans hp
              · rw [hmem']
                intro h4 hall
                rw [← hf] at hname
                exact hname h4 fun n => by rw [henv]; exact hall n
              · rw [he.step.bufs]
                split at hiov
                · exact .inl hiov
                · exact .inr hiov
            · exact nomatch h

/-- The message of a frame records its length at the reception. -/
theorem prvHandleReceive_carries (hv : HeapOk v) (htb : TimebaseOk v) (hsock : SocketsOk v)
    (hp : (v.bufs b).pucEthernetBuffer = .eth b 0) (h : (prvHandleReceive b).run v = .ok (some xItem) v₁)
    (ha : xItem.pxMsgh = some a) :
    ∃ m, v₁.heap a = some (.msghdr m) ∧ ((∃ i, Carries v₁ a b m i (v₁.bufs b).xDataLength) ∨ m.msgIov = none) := by
  obtain ⟨-, m, hleft⟩ := prvHandleReceive_message hv htb hsock hp h ha
  exact ⟨m, hleft.msghdr, hleft.vector⟩

theorem payloadOf_udp {mem : Mem} (h : protocolOf mem = ipProtocolUdp) (n : Nat) :
    payloadOf mem n = (uxPrefixOf mem + ipSizeOfUdpHeader, usLengthOf mem) := if_pos h

theorem payloadOf_other {mem : Mem} (h : protocolOf mem ≠ ipProtocolUdp) (n : Nat) : payloadOf mem n = (0, n) := if_neg h

theorem copiedRange_iff {n c off k : Nat} : CopiedRange w b n c off k ↔
    off = (payloadOf (w.mem b) n).1 ∧ k = min c (payloadOf (w.mem b) n).2 := by
  obtain ⟨w', hrun, -⟩ := run_prvMoveToStartOfPayload (w := w) (b := b) (n := n)
  constructor
  · rintro ⟨h, hv⟩
    rw [hrun] at h
    cases h
    cases hv
    exact ⟨rfl, rfl⟩
  · rintro ⟨rfl, rfl⟩
    exact ⟨hrun, rfl⟩

/-- The vector that is at the message of a packet that waits is the one that was recorded. -/
theorem Waits.carries {x : BaseSocket} {t : Addr} {s : TSNSocket} (h : Waits b a v₁ w) (hok : TsnSocketOk w t s x)
    (hb : b ∈ x.xWaitingPacketsList) {n : Nat}
    (hm : ∃ m, v₁.heap a = some (.msghdr m) ∧ ((∃ i, Carries v₁ a b m i n) ∨ m.msgIov = none)) :
    ∃ m i, Carries w a b m i n := by
  obtain ⟨m, hmsg, hcarries⟩ := hm
  obtain ⟨a', m', i', n', hp', hc'⟩ := hok.waiting b hb
  rw [h.pucEthernetBuffer] at hp'
  cases hp'
  obtain ⟨hmsg', hvec⟩ := h.msghdr m hmsg
  have hsame : m' = m := by
    have := hc'.msghdr.symm.trans hmsg'
    simpa using this
  subst hsame
  rcases hcarries with ⟨i, hc⟩ | hnone
  · refine ⟨m', i, hmsg', hc.msgFlags, hc.msgIov, hc.msgIovlen, ?_⟩
    rw [hvec i hc.msgIov]
    exact hc.iovec
  · rw [hc'.msgIov] at hnone
    exact nomatch hnone

end Payload

/-! ## Control data that was built -/

theorem overwrite_length {src : List UInt8} (h : off + src.length ≤ bs.length) :
    (overwrite bs off src).length = bs.length := by
  simp [overwrite]
  omega

theorem ofBytes_overwrite {src : List UInt8} (h : off + src.length ≤ bs.length) :
    Mem.ofBytes (overwrite bs off src) = (Mem.ofBytes bs).write off src := by
  funext i
  have htake : (bs.take off).length = off := by
    rw [List.length_take]
    omega
  by_cases hlt : i < off
  · rw [Mem.write_of_lt hlt, Mem.ofBytes, Mem.ofBytes, overwrite, List.append_assoc]
    simp only [List.getD_eq_getElem?_getD]
    rw [List.getElem?_append_left (by omega), List.getElem?_take_of_lt hlt]
  · obtain ⟨k, rfl⟩ := Nat.exists_eq_add_of_le (Nat.le_of_not_lt hlt)
    by_cases hk : k < src.length
    · rw [Mem.write_at _ _ hk, Mem.ofBytes, overwrite, List.append_assoc]
      simp [List.getElem?_append_right, List.getElem?_append_left, htake, hk]
    · rw [Mem.write_of_ge (by omega), Mem.ofBytes, Mem.ofBytes, overwrite, List.append_assoc]
      simp only [List.getD_eq_getElem?_getD]
      rw [List.getElem?_append_right (by omega), List.getElem?_append_right (by omega), List.getElem?_drop, htake]
      congr 2
      omega

theorem uxControlSpace_eq (cs : List ControlMsg) : uxControlSpace cs = ilp32.totalSpace cs := rfl

theorem putControl_eq (hroom : off + ilp32.space c ≤ bs.length) (hlen : bs.length < 2 ^ 32) :
    (putControl bs off c).length = bs.length ∧
      Mem.ofBytes (putControl bs off c) = (Mem.ofBytes bs).writeAll (ilp32.controlFields off c) := by
  have hspace : ilp32.space c < 2 ^ ilp32.sizeBits := by
    rw [show ilp32.sizeBits = 32 from rfl]
    omega
  have hdata : 12 + c.data.length ≤ ilp32.space c := Nat.add_le_add_left (ilp32.le_align _) _
  have hhead : off + (bytes32 (UInt32.ofNat (cmsgLen c.data.length)) ++ bytes32 c.cmsgLevel ++
      bytes32 c.cmsgType).length ≤ bs.length := by
    simp only [List.length_append, bytes32_length]
    omega
  have hbody : off + cmsgAlign cmsghdrSize + c.data.length ≤ bs.length := by
    rw [show cmsgAlign cmsghdrSize = 12 from rfl]
    omega
  have hcmsgLen : cmsgLen c.data.length = ilp32.cmsgLen c.data.length := (DataModel.cmsgLen_eq hspace).symm
  refine ⟨?_, ?_⟩
  · rw [putControl, overwrite_length (by rw [overwrite_length hhead]; exact hbody), overwrite_length hhead]
  · rw [putControl, ofBytes_overwrite (by rw [overwrite_length hhead]; exact hbody), ofBytes_overwrite hhead,
      Mem.write_append, Mem.write_append, hcmsgLen]
    rfl

/-- The loop writes to the block what it would write with any widths. -/
theorem prvPackControl_block (hroom : off + ilp32.totalSpace cs ≤ bs.length) (hlen : bs.length < 2 ^ 32)
    (h : prvPackControl bs.length bs (some off) cs = some bs') :
    bs'.length = bs.length ∧ Mem.ofBytes bs' = (Mem.ofBytes bs).writeAll (ilp32.packedFields off cs) := by
  generalize hn : bs.length = n at h hroom hlen
  induction cs generalizing bs off with
  | nil =>
      cases h
      exact ⟨hn, rfl⟩
  | cons c cs ih =>
      rw [DataModel.totalSpace_cons] at hroom
      have hthis : off + ilp32.space c ≤ bs.length := by omega
      obtain ⟨hput, hmem⟩ := putControl_eq hthis (by omega)
      rw [prvPackControl, cmsgNxtHdr, Packet.cmsgAlign_cmsgLen, show cmsgSpace c.data.length = ilp32.space c from rfl] at h
      cases cs with
      | nil =>
          have hdone : bs' = putControl bs off c := by
            split at h <;> cases h <;> rfl
          rw [hdone]
          refine ⟨hput.trans hn, ?_⟩
          rw [hmem, DataModel.packedFields, DataModel.packedFields, List.append_nil]
      | cons c' cs =>
          have h12 := ilp32.le_space c'
          rw [if_neg (by rw [DataModel.totalSpace_cons] at hroom; omega)] at h
          obtain ⟨hlen', hmem'⟩ := ih (hput.trans hn) h (by omega)
          refine ⟨hlen', ?_⟩
          rw [hmem', hmem, ← Mem.writeAll_append]
          rfl

/-- The block that a call leaves. -/
theorem ControlBuilt.block (h : ControlBuilt cs bs) : bs.length = ilp32.totalSpace cs ∧
    ∃ ctl : Mem, Mem.ofBytes bs = ctl.writeAll (ilp32.packedFields 0 cs) := by
  obtain ⟨hfits, a, w, w', m, x, hrun, ha, hx, hbs⟩ := h
  rw [xAncillaryMsgControlFill] at hrun
  dsimp only at hrun
  rw [run_bind_ok (EStateM.run_get w)] at hrun
  generalize hjunk : (List.range (uxControlSpace cs)).map w.env.junk = junk at hrun
  have hsize : junk.length = uxControlSpace cs := by simp [← hjunk]
  cases hm : w.env.pvPortMalloc w.calls with
  | false =>
      rw [run_bind_ok (run_pvPortMalloc_null hm _)] at hrun
      obtain ⟨m₀, w₁, -, hrun⟩ := run_bind_inv hrun
      obtain ⟨_, w₂, -, hrun⟩ := run_bind_inv hrun
      cases hrun
  | true =>
      rw [run_bind_ok (run_pvPortMalloc_ok hm _)] at hrun
      obtain ⟨m₀, w₁, hload, hrun⟩ := run_bind_inv hrun
      obtain ⟨rfl, ha₀⟩ := loadMsghdr_inv hload
      have hne : w.calls ≠ a := by
        rintro rfl
        simp at ha₀
      rw [run_bind_ok (run_storeMsghdr _ _ _)] at hrun
      split at hrun
      · rename_i built hpack
        cases hrun
        -- the message refers to the new block, which holds what was packed
        have hmsg : w.calls = x ∧ built = bs := by
          simp [Function.update_of_ne hne.symm] at ha
          subst ha
          cases hx
          simpa using hbs
        obtain ⟨rfl, rfl⟩ := hmsg
        rw [← hsize] at hfits hpack
        cases cs with
        | nil =>
            cases hpack
            exact ⟨hsize, _, rfl⟩
        | cons c cs =>
            have hfirst : cmsghdrSize ≤ junk.length := by
              rw [hsize]
              exact DataModel.le_totalSpace (D := ilp32) (List.cons_ne_nil c cs)
            rw [if_pos hfirst] at hpack
            obtain ⟨hlen, hmem⟩ := prvPackControl_block (by rw [hsize, Nat.zero_add]; rfl) hfits hpack
            exact ⟨hlen.trans hsize, _, hmem⟩
      · obtain ⟨_, w₂, -, hrun⟩ := run_bind_inv hrun
        obtain ⟨m₂, w₃, -, hrun⟩ := run_bind_inv hrun
        obtain ⟨_, w₄, -, hrun⟩ := run_bind_inv hrun
        cases hrun

/-- **Refinement**: the call leaves what the one for any widths leaves when a `long` has four bytes. -/
theorem ControlBuilt.refines (h : ControlBuilt cs bs) : ∃ ctl, ilp32.xAncillaryMsgControlFill (some ctl) cs =
    ⟨true, some (Mem.ofBytes bs), bs.length, ilp32.packedFields 0 cs⟩ := by
  obtain ⟨hsize, ctl, hctl⟩ := h.block
  have hfits : ilp32.totalSpace cs < 2 ^ 32 := h.fits
  exact ⟨ctl, by rw [DataModel.xAncillaryMsgControlFill_eq hfits (DataModel.cmsgLen_lt_of_total hfits), hctl, hsize]⟩

theorem ControlBuilt.found (h : ControlBuilt cs bs) : bs.length = ilp32.totalSpace cs ∧
    List.Forall₂ (ilp32.MessageOf (Mem.ofBytes bs)) cs (ilp32.offsets 0 cs) := by
  have hfits : ilp32.totalSpace cs < 2 ^ 32 := h.fits
  have hlen := DataModel.cmsgLen_lt_of_total hfits
  obtain ⟨ctl, hfill⟩ := h.refines
  rw [DataModel.xAncillaryMsgControlFill_eq hfits hlen] at hfill
  obtain ⟨hctl, hsize⟩ : ctl.writeAll (ilp32.packedFields 0 cs) = Mem.ofBytes bs ∧ ilp32.totalSpace cs = bs.length := by
    simpa using hfill
  refine ⟨hsize.symm, ?_⟩
  rw [← hctl]
  exact DataModel.messages_found (ilp32.packedFields_read 0 cs ctl) hlen

/-! ## Control data that is copied -/

/-- The control fields of what the user is given. -/
structure SameControl (u u' : UserMsghdr) : Prop where
  msgControl : u'.msgControl = u.msgControl
  msgControllen : u'.msgControllen = u.msgControllen

theorem copiedName_sameControl (heap : Addr → Option Block) (m : Msghdr) (u : UserMsghdr) :
    SameControl u (copiedName heap m u) := by
  unfold copiedName
  split <;> exact ⟨rfl, rfl⟩

theorem prvCopyIov_sameControl {r : UserMsghdr × Nat} (h : (prvCopyIov m u).run w = .ok r w') : SameControl u r.1 := by
  unfold prvCopyIov at h
  split at h
  · obtain ⟨v, w₁, -, h⟩ := run_bind_inv h
    cases v with
    | nil => exact nomatch h
    | cons v vs =>
        obtain ⟨v', w₂, -, h⟩ := run_bind_inv h
        obtain ⟨_, w₃, -, h⟩ := run_bind_inv h
        obtain ⟨r', w₄, -, h⟩ := run_bind_inv h
        cases h
        exact ⟨rfl, rfl⟩
  · cases h
    exact ⟨rfl, rfl⟩

theorem SameControl.copied (h : SameControl u u') (heap : Addr → Option Block) (m : Msghdr) :
    SameControl (copiedControl heap m u) (copiedControl heap m u') := by
  unfold copiedControl
  rw [h.msgControl, h.msgControllen]
  split <;> exact ⟨rfl, rfl⟩

theorem prvTakeMessage_control (hw : HeapOk w) (ha : w.heap a = some (.msghdr m)) {pxBuf : Option BufId} {r : Int}
    (h : (prvTakeMessage a pxBuf u).run w = .ok (r, u') w') : SameControl (copiedControl w.heap m u) u' := by
  rw [prvTakeMessage, run_bind_ok (run_loadMsghdr ha), run_bind_ok (run_prvCopyName hw.toMsgHeap ha)] at h
  obtain ⟨⟨u₁, uxPayloadLen⟩, w₁, hiov, h⟩ := run_bind_inv h
  have hmoved := prvCopyIov_inv hiov
  have hsame := prvCopyIov_sameControl hiov
  have hheap : copiedControl w₁.heap m u₁ = copiedControl w.heap m u₁ := by
    unfold copiedControl
    cases hx : m.msgControl with
    | none => rfl
    | some x =>
        have hne : m.msgIov ≠ some x := hw.toMsgHeap.part_ne_part (p := .control) (q := .iov) ha (by decide) hx
        rw [Option.bind_some, Option.bind_some, hmoved.keep hne]
  dsimp only at h
  rw [run_bind_ok (run_prvCopyControl (hmoved.heapOk hw).toMsgHeap (hmoved.msghdr hw.toMsgHeap ha)), hheap] at h
  obtain ⟨_, w₂, -, h⟩ := run_bind_inv h
  obtain ⟨_, w₃, -, h⟩ := run_bind_inv h
  cases h
  have hname := copiedName_sameControl w.heap m u
  have hcopied := SameControl.copied ⟨hsame.msgControl.trans hname.msgControl,
    hsame.msgControllen.trans hname.msgControllen⟩ w.heap m
  exact ⟨hcopied.msgControl, hcopied.msgControllen⟩

section Call

variable {t : Addr} {s : TSNSocket} {x : BaseSocket} {xFlags : Nat}

/-- A call takes its message in a state with the same heap. -/
theorem recvmsg_takes (h : TsnSocketOk w t s x) (hb : x.bBound = true) (ha : takenMsgh w s x xFlags = some a) {r : Int}
    (hrun : (freeRtosTsnRecvmsg t (some u) xFlags).run w = .ok (r, some u') w') :
    ∃ w₀ pxBuf, w₀.heap = w.heap ∧ HeapOk w₀ ∧ (prvTakeMessage a pxBuf u).run w₀ = .ok (r, u') w' := by
  have hmap : ∀ {w₀ : World} {pxBuf : Option BufId},
      ((fun r => (r.1, some r.2)) <$> prvTakeMessage a pxBuf u).run w₀ = .ok (r, some u') w' →
        (prvTakeMessage a pxBuf u).run w₀ = .ok (r, u') w' := by
    intro w₀ pxBuf h
    rw [run_map] at h
    cases hr : (prvTakeMessage a pxBuf u).run w₀ with
    | ok q w₁ =>
        rw [hr] at h
        cases h
        rfl
    | error e w₁ =>
        rw [hr] at h
        exact nomatch h
  unfold takenMsgh at ha
  cases hf : hasFlag xFlags freertosMsgErrqueue with
  | true =>
      rw [hf, if_pos rfl] at ha
      obtain ⟨es, hq⟩ := List.head?_eq_some_iff.mp ha
      rw [run_recvmsg_error h.socket h.base hb hf hq] at hrun
      exact ⟨w.setErrQueue s.xErrQueue es, none, rfl, h.heapOk.setErrQueue s.xErrQueue es, hmap hrun⟩
  | false =>
      rw [hf, if_neg Bool.false_ne_true] at ha
      cases hl : x.xWaitingPacketsList with
      | nil => simp [hl] at ha
      | cons b rest =>
          obtain ⟨a', m, i, n, hp, hc⟩ := h.waiting b (by rw [hl]; exact List.mem_cons_self)
          rw [hl, List.head?_cons, Option.map_some, hp] at ha
          cases ha
          rw [run_recvmsg_packet h.socket h.base hb hf hl hp hc] at hrun
          exact ⟨_, some b, unswapped_heap, h.heapOk.unswapped, hmap hrun⟩

theorem givenControllen_le (u : UserMsghdr) (n : Nat) : givenControllen u n ≤ n := by
  unfold givenControllen
  split
  · exact Nat.min_le_right _ _
  · exact Nat.zero_le n

/-- The user is given the first bytes of the control data. -/
theorem recvmsg_control (h : TsnSocketOk w t s x) (hb : x.bBound = true) (ha : takenMsgh w s x xFlags = some a)
    (hbs : HasControl w a bs) {r : Int}
    (hrun : (freeRtosTsnRecvmsg t (some u) xFlags).run w = .ok (r, some u') w') :
    u'.msgControllen = givenControllen u bs.length ∧ ∀ i < givenControllen u bs.length,
      Mem.ofBytes (u'.msgControl.getD []) i = Mem.ofBytes bs i := by
  obtain ⟨m, y, hm, hy, hlen, hblock⟩ := hbs
  obtain ⟨w₀, pxBuf, hheap, hw₀, htake⟩ := recvmsg_takes h hb ha hrun
  have hsame := prvTakeMessage_control hw₀ (by rw [hheap]; exact hm) htake
  rw [hheap] at hsame
  have hbind : m.msgControl.bind w.heap = some (.control bs) := by rw [hy, Option.bind_some, hblock]
  rw [hsame.msgControllen, hsame.msgControl, copiedControl, hbind, givenControllen]
  cases hu : u.msgControl with
  | none => simp
  | some dst =>
      simp only [Option.isSome_some, if_true, Option.getD_some, hlen, true_and]
      intro i hi
      have htake : i < (bs.take (min u.msgControllen bs.length)).length := by
        rw [List.length_take]
        omega
      simp only [Mem.ofBytes, copyTo, overwrite, List.take_zero, List.nil_append, List.getD_eq_getElem?_getD]
      rw [List.getElem?_append_left htake, List.getElem?_take_of_lt hi]

end Call

end FreeRtosTsn.Packet
