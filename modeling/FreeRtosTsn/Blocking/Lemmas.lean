import FreeRtosTsn.Blocking.Receive
import FreeRtosTsn.Node.Lemmas.Serving

/-!
# What the others keep while a task receives

A packet that is appended after the list was found empty is followed by its bit, so the task finds the bit when it is
about to block, or is woken by it.
-/

namespace FreeRtosTsn.Blocking

open Lib Kernel Packet Scheduler Node

variable {R : Receiver} {cfg : Config}

/-! ## A step of the others -/

structure OthersKeep (R : Receiver) (s s' : RecvState) : Prop where
  waiting : waiting s.w R.xBaseSocket <+: waiting s'.w R.xBaseSocket
  xTickCount : s.w.xTickCount ≤ s'.w.xTickCount
  called : s'.called = s.called
  bBound : s'.bBound = s.bBound
  counted : s'.counted = s.counted
  taken : s'.taken = s.taken
  xWaiter : s.xWaiter = none → s'.xWaiter = none
  eSocketReceive : s.xWaiter = none → s.eSocketReceive = true → s'.eSocketReceive = true
  /-- A packet is appended by a delivery. -/
  appends : Packet.waiting s'.w R.xBaseSocket = Packet.waiting s.w R.xBaseSocket ∨ s'.bDelivering = true
  /-- A delivery ends with the bit set, or the task woken. -/
  delivers : s.bDelivering = true → s'.bDelivering = true ∨
    s'.xWaiter = none ∧ (s.xWaiter = none → s'.eSocketReceive = true)

theorem RecvState.setBits_keeps (s : RecvState) (bReceive bIntr : Bool) :
    (s.setBits bReceive bIntr).xWaiter = none ∧ (s.setBits bReceive bIntr).w = s.w ∧
      (s.setBits bReceive bIntr).bDelivering = s.bDelivering ∧ (s.setBits bReceive bIntr).called = s.called ∧
      (s.setBits bReceive bIntr).bBound = s.bBound ∧
      (s.setBits bReceive bIntr).counted = s.counted ∧ (s.setBits bReceive bIntr).taken = s.taken ∧
      (s.xWaiter = none → (s.setBits bReceive bIntr).eSocketReceive = (s.eSocketReceive || bReceive)) := by
  cases h : s.xWaiter <;> simp [RecvState.setBits, h]

theorem RecvStep.keeps {s s' : RecvState} (hst : RecvStep R cfg s s') : OthersKeep R s s' := by
  cases hst with
  | @serve w' q xItem hidle hserved =>
      have hkeeps := Served.keeps hserved
      refine ⟨hkeeps.waiting _, Nat.le_of_eq hkeeps.xTickCount.symm, rfl, rfl, rfl, rfl, id, fun _ => id, ?_, ?_⟩
      · by_cases hw : waiting w' R.xBaseSocket = waiting s.w R.xBaseSocket
        · exact Or.inl hw
        · exact Or.inr (decide_eq_true hw)
      · simp [hidle]
  | xEventGroupSetBits hdel =>
      obtain ⟨hwaiter, hw, -, hcalled, hbound, hcounted, htaken, hbit⟩ := s.setBits_keeps true false
      refine ⟨?_, ?_, hcalled, hbound, hcounted, htaken, fun _ => hwaiter, fun hn _ => ?_, Or.inl ?_,
        fun _ => Or.inr ⟨hwaiter, fun hn => ?_⟩⟩
      · simp [hw]
      · simp [hw]
      · simp [hbit hn]
      · simp [hw]
      · simp [hbit hn]
  | signal =>
      obtain ⟨hwaiter, hw, hdel, hcalled, hbound, hcounted, htaken, hbit⟩ := s.setBits_keeps false true
      refine ⟨?_, ?_, hcalled, hbound, hcounted, htaken, fun _ => hwaiter, fun hn hr => ?_, Or.inl ?_,
        fun hd => Or.inl (hdel.trans hd)⟩
      · simp [hw]
      · simp [hw]
      · simp [hbit hn, hr]
      · simp [hw]
  | other hw ht =>
      exact ⟨by simp [hw], ht, rfl, rfl, rfl, rfl, id, fun _ => id, Or.inl hw, fun hd => Or.inl hd⟩

/-! ## What holds on the way -/

/-- The list was found empty, and the task has not blocked yet. -/
structure Signalled (R : Receiver) (s : RecvState) : Prop where
  xWaiter : s.xWaiter = none
  covered : waiting s.w R.xBaseSocket = [] ∨ s.bDelivering = true ∨ s.eSocketReceive = true

/-- The task is blocked, or was just woken. -/
def Woken (R : Receiver) (s : RecvState) : Prop :=
  waiting s.w R.xBaseSocket = [] ∨ s.bDelivering = true ∨ s.xWaiter = none

/-- The remaining time counts from `xTimeOut`, which is not before the call. -/
structure Timed (R : Receiver) (s : RecvState) (xTimeOut xRemainingTime : Nat) : Prop where
  valid : Valid R s
  taken : s.taken = none
  xTimeOut_le : xTimeOut ≤ s.w.xTickCount
  forever : s.called.1 = portMaxDelay → xRemainingTime = portMaxDelay
  ends : s.called.1 ≠ portMaxDelay → s.called.2 + s.called.1 ≤ xTimeOut + xRemainingTime

/-- A packet is there. -/
structure HasPacket (R : Receiver) (s : RecvState) : Prop where
  valid : Valid R s
  taken : s.taken = none
  waiting : hasFlag R.xFlags freertosMsgErrqueue = false → Packet.waiting s.w R.xBaseSocket ≠ []

section Keep

variable {s s' : RecvState} (h : OthersKeep R s s')
include h

theorem OthersKeep.signalled (hs : Signalled R s) : Signalled R s' := by
  refine ⟨h.xWaiter hs.xWaiter, ?_⟩
  rcases h.appends with happ | happ
  · rcases hs.covered with hw | hd | hb
    · exact Or.inl (happ.trans hw)
    · rcases h.delivers hd with hd' | ⟨-, hb⟩
      · exact Or.inr (Or.inl hd')
      · exact Or.inr (Or.inr (hb hs.xWaiter))
    · exact Or.inr (Or.inr (h.eSocketReceive hs.xWaiter hb))
  · exact Or.inr (Or.inl happ)

theorem OthersKeep.woken (hs : Woken R s) : Woken R s' := by
  rcases h.appends with happ | happ
  · rcases hs with hw | hd | hn
    · exact Or.inl (happ.trans hw)
    · rcases h.delivers hd with hd' | ⟨hn, -⟩
      · exact Or.inr (Or.inl hd')
      · exact Or.inr (Or.inr hn)
    · exact Or.inr (Or.inr (h.xWaiter hn))
  · exact Or.inr (Or.inl happ)

theorem OthersKeep.valid : Valid R s' ↔ Valid R s := by rw [Valid, Valid, h.bBound]

theorem OthersKeep.timed {xTimeOut xRemainingTime : Nat} (hs : Timed R s xTimeOut xRemainingTime) :
    Timed R s' xTimeOut xRemainingTime := by
  refine ⟨h.valid.mpr hs.valid, h.taken.trans hs.taken, hs.xTimeOut_le.trans h.xTickCount, ?_, ?_⟩
  · rw [h.called]
    exact hs.forever
  · rw [h.called]
    exact hs.ends

theorem OthersKeep.hasPacket (hs : HasPacket R s) : HasPacket R s' := by
  refine ⟨h.valid.mpr hs.valid, h.taken.trans hs.taken, fun herr hnil => hs.waiting herr ?_⟩
  have hprefix := h.waiting
  rw [hnil] at hprefix
  exact List.prefix_nil.mp hprefix

theorem OthersKeep.expired (hs : Expired R s) : Expired R s' := by
  rw [Expired, h.called]
  rcases hs with hz | hd | ⟨hne, hle⟩
  · exact Or.inl hz
  · exact Or.inr (Or.inl hd)
  · exact Or.inr (Or.inr ⟨hne, hle.trans h.xTickCount⟩)

theorem OthersKeep.returns {r : Int × Option UserMsghdr} (hs : Returns R s r) : Returns R s' r := by
  cases hs with
  | took w w' hv ht hw hrun => exact .took w w' (h.valid.mpr hv) (h.taken.trans ht) hw hrun
  | wouldBlock hv hr ht hc he =>
      exact .wouldBlock (h.valid.mpr hv) hr (h.taken.trans ht) (h.counted.trans hc) (h.expired he)
  | invalid hv hr ht => exact .invalid (mt h.valid.mp hv) hr (h.taken.trans ht)

end Keep

/-- What the steps of the others keep is stable. -/
theorem stable_of_keeps {I : RecvState → Prop} (hI : ∀ s s', OthersKeep R s s' → I s → I s') :
    Stable (recvSem R cfg) I := fun s s' h hst => hI s s' (RecvStep.keeps hst) h

/-! ## A pass of the loop -/

/-- What holds of a call when it is made. -/
def RecvPre (R : Receiver) : RecvCall → RecvState → Prop
  | .blocked, s => Woken R s
  | .receive, s => HasPacket R s
  | _, _ => True

/-- The list was found empty by the call itself. -/
structure First (R : Receiver) (s : RecvState) (xRemainingTime : Nat) : Prop extends Signalled R s where
  valid : Valid R s
  taken : s.taken = none
  counted : s.counted = 0
  xReceiveBlockTime : s.called.1 = xRemainingTime
  called_le : s.called.2 ≤ s.w.xTickCount

/-- What holds where a pass begins or ends. -/
def LoopOk (R : Receiver) : RecvLoop → RecvState → Prop
  | .call, s => s.xWaiter = none ∧ s.taken = none
  | .wait none xRemainingTime, s => First R s xRemainingTime
  | .wait (some xTimeOut) xRemainingTime, s => Signalled R s ∧ Timed R s xTimeOut xRemainingTime
  | .returned r, s => Returns R s r

theorem OthersKeep.first {s s' : RecvState} (h : OthersKeep R s s') {xRemainingTime : Nat}
    (hs : First R s xRemainingTime) : First R s' xRemainingTime :=
  ⟨h.signalled hs.toSignalled, h.valid.mpr hs.valid, h.taken.trans hs.taken, h.counted.trans hs.counted,
    (congrArg Prod.fst h.called).trans hs.xReceiveBlockTime, by rw [h.called]; exact hs.called_le.trans h.xTickCount⟩

theorem LoopOk.stable (l : RecvLoop) : Stable (recvSem R cfg) (LoopOk R l) := by
  refine stable_of_keeps fun s s' h hs => ?_
  cases l with
  | call => exact ⟨h.xWaiter hs.1, h.taken.trans hs.2⟩
  | wait xTimeOut xRemainingTime =>
      cases xTimeOut with
      | none => exact h.first hs
      | some xTimeOut => exact ⟨h.signalled hs.1, h.timed hs.2⟩
  | returned r => exact h.returns hs

theorem ret_wp {l : RecvLoop} {s : RecvState} (h : LoopOk R l s) :
    wp (recvSem R cfg) (RecvPre R) (.ret l) (LoopOk R) s := wp.ret_of_stable (LoopOk.stable l) h fun _ h => h

/-- A packet is taken, and the function returns what was made of it. -/
theorem receive_wp {s : RecvState} (h : HasPacket R s) :
    wp (recvSem R cfg) (RecvPre R) (.call (σ := RecvCalls) .receive fun r => .ret (.returned r)) (LoopOk R) s := by
  refine wp.call_of_stable (stable_of_keeps fun _ _ h => h.hasPacket) h (fun _ h => h) fun s r s' h hst => ?_
  cases hst with
  | receive hrun => exact ret_wp (.took s.w _ h.valid rfl h.waiting hrun)

/-- A time that has not passed goes on from now. -/
theorem Timed.check {s : RecvState} {xTimeOut xRemainingTime : Nat} (h : Timed R s xTimeOut xRemainingTime) :
    match checkForTimeOut xTimeOut xRemainingTime s.w.xTickCount with
    | none => s.called.1 ≠ portMaxDelay ∧ s.called.2 + s.called.1 ≤ s.w.xTickCount
    | some (xRemainingTime, xTimeOut) => Timed R s xTimeOut xRemainingTime := by
  have hle := h.xTimeOut_le
  by_cases hmax : xRemainingTime = portMaxDelay
  · simp only [checkForTimeOut, xTaskCheckForTimeOut, hmax, if_true, Option.map_some]
    exact ⟨h.valid, h.taken, hle, fun _ => rfl, hmax ▸ h.ends⟩
  · have hne : s.called.1 ≠ portMaxDelay := fun heq => hmax (h.forever heq)
    have hends := h.ends hne
    by_cases hpassed : s.w.xTickCount - xTimeOut < xRemainingTime
    · simp only [checkForTimeOut, xTaskCheckForTimeOut, hmax, hpassed, if_true, if_false, Option.map_some]
      exact ⟨h.valid, h.taken, Nat.le_refl _, fun heq => absurd heq hne, fun _ => by omega⟩
    · simp only [checkForTimeOut, xTaskCheckForTimeOut, hmax, hpassed, if_false, Option.map_none]
      exact ⟨hne, by omega⟩

/-- From the look at the list on. -/
theorem prvLookAtList_wp {xTimeOut xRemainingTime : Nat} {s : RecvState} (hn : s.xWaiter = none)
    (ht : Timed R s xTimeOut xRemainingTime) :
    wp (recvSem R cfg) (RecvPre R) (do
      let lPacketCount ← call .listCurrentListLength
      if lPacketCount ≠ 0 then
        return .returned (← call .receive)
      match ← call (.xTaskCheckForTimeOut xTimeOut xRemainingTime) with
      | none => return .returned (-errnoEagain, R.pxMsghUser)
      | some (xRemainingTime, xTimeOut) => return .wait (some xTimeOut) xRemainingTime) (LoopOk R) s := by
  have hready : Stable (recvSem R cfg) fun s => s.xWaiter = none ∧ Timed R s xTimeOut xRemainingTime :=
    stable_of_keeps fun _ _ h hs => ⟨h.xWaiter hs.1, h.timed hs.2⟩
  have hempty : Stable (recvSem R cfg) fun s => Signalled R s ∧ Timed R s xTimeOut xRemainingTime ∧ s.counted = 0 :=
    stable_of_keeps fun _ _ h hs => ⟨h.signalled hs.1, h.timed hs.2.1, h.counted.trans hs.2.2⟩
  simp only [call_eq, Prog.call_bind, Prog.ret_bind, Prog.pure_eq]
  refine wp.call_of_stable hready ⟨hn, ht⟩ (fun _ _ => trivial) fun s n s' h hst => ?_
  cases hst with
  | listCurrentListLength =>
      by_cases hw : waiting s.w R.xBaseSocket = []
      · rw [if_neg (by simp [hw])]
        have hs : Signalled R { s with counted := (waiting s.w R.xBaseSocket).length } := ⟨h.1, Or.inl hw⟩
        refine wp.call_of_stable hempty ⟨hs, ⟨h.2.valid, h.2.taken, h.2.xTimeOut_le, h.2.forever, h.2.ends⟩, by simp [hw]⟩
          (fun _ _ => trivial) fun s r s' h hst => ?_
        cases hst with
        | xTaskCheckForTimeOut =>
            have hcheck := h.2.1.check
            cases hc : checkForTimeOut xTimeOut xRemainingTime s.w.xTickCount with
            | none =>
                rw [hc] at hcheck
                exact ret_wp (.wouldBlock h.2.1.valid rfl h.2.1.taken h.2.2 (Or.inr (Or.inr hcheck)))
            | some r =>
                rw [hc] at hcheck
                exact ret_wp (l := .wait (some r.2) r.1) ⟨h.1, hcheck⟩
      · rw [if_pos (by simpa using hw)]
        exact receive_wp ⟨h.2.valid, h.2.taken, fun _ => hw⟩

theorem prvWaitForPacket_wp {xTimeOut xRemainingTime : Nat} {s : RecvState} (hs : Signalled R s)
    (ht : Timed R s xTimeOut xRemainingTime) :
    wp (recvSem R cfg) (RecvPre R) (prvWaitForPacket R xTimeOut xRemainingTime) (LoopOk R) s := by
  have hwait : Stable (recvSem R cfg) fun s => Signalled R s ∧ Timed R s xTimeOut xRemainingTime :=
    stable_of_keeps fun _ _ h hs => ⟨h.signalled hs.1, h.timed hs.2⟩
  have hblocked : Stable (recvSem R cfg) fun s => Woken R s ∧ Timed R s xTimeOut xRemainingTime :=
    stable_of_keeps fun _ _ h hs => ⟨h.woken hs.1, h.timed hs.2⟩
  rw [prvWaitForPacket, call_eq, Prog.call_bind]
  refine wp.call_of_stable hwait ⟨hs, ht⟩ (fun _ _ => trivial) fun s bBits s' h hst => ?_
  cases hst with
  | bitsSet hbits =>
      exact prvLookAtList_wp h.1.xWaiter ⟨h.2.valid, h.2.taken, h.2.xTimeOut_le, h.2.forever, h.2.ends⟩
  | noBits hbits =>
      -- The bit of a packet that was appended before is still to come.
      have hwoken : Woken R { s with xWaiter := some (wakeTime xRemainingTime s.w.xTickCount) } := by
        rcases h.1.covered with hw | hd | hb
        · exact Or.inl hw
        · exact Or.inr (Or.inl hd)
        · simp [hb] at hbits
      refine wp.call_of_stable hblocked ⟨hwoken, ⟨h.2.valid, h.2.taken, h.2.xTimeOut_le, h.2.forever, h.2.ends⟩⟩
        (fun _ h => h.1) fun s r s' h hst => ?_
      cases hst with
      | woken hn => exact prvLookAtList_wp hn h.2
      | timedOut hw hle => exact prvLookAtList_wp rfl ⟨h.2.valid, h.2.taken, h.2.xTimeOut_le, h.2.forever, h.2.ends⟩

/-! ## The function -/

theorem prvRecvmsg_call_wp {s : RecvState} (h : LoopOk R .call s) :
    wp (recvSem R cfg) (RecvPre R) (prvRecvmsg R .call) (LoopOk R) s := by
  simp only [prvRecvmsg, call_eq, Prog.call_bind, Prog.ret_bind, Prog.pure_eq]
  refine wp.call_of_stable (LoopOk.stable .call) h (fun _ _ => trivial) fun s x s' h hst => ?_
  cases hst with
  | loadBaseSocket hx =>
      have hw : waiting s.w R.xBaseSocket = x.xWaitingPacketsList := by simp [waiting, hx]
      by_cases hargs : (!x.bBound || R.pxMsghUser.isNone) = true
      · rw [if_pos hargs]
        refine ret_wp (.invalid ?_ rfl h.2)
        rintro ⟨hb, hu⟩
        simp_all
      · rw [if_neg hargs]
        have hvalid : x.bBound = true ∧ R.pxMsghUser ≠ none := by
          cases hb : x.bBound <;> cases hu : R.pxMsghUser <;> simp_all
        by_cases hpacket : (hasFlag R.xFlags freertosMsgErrqueue || !x.xWaitingPacketsList.isEmpty) = true
        · rw [if_pos hpacket]
          refine receive_wp ⟨hvalid, h.2, fun herr => ?_⟩
          rw [herr, Bool.false_or, Bool.not_eq_true', List.isEmpty_eq_false_iff] at hpacket
          exact hw ▸ hpacket
        · rw [if_neg hpacket]
          have hnil : x.xWaitingPacketsList = [] := by simp_all
          exact ret_wp (l := .wait none x.xReceiveBlockTime)
            ⟨⟨h.1, Or.inl (hw.trans hnil)⟩, hvalid, h.2, by simp [hnil], rfl, Nat.le_refl _⟩

theorem prvRecvmsg_wait_wp {xRemainingTime : Nat} {s : RecvState} (h : First R s xRemainingTime) :
    wp (recvSem R cfg) (RecvPre R) (prvRecvmsg R (.wait none xRemainingTime)) (LoopOk R) s := by
  simp only [prvRecvmsg, call_eq, Prog.call_bind, Prog.ret_bind, Prog.pure_eq]
  by_cases hnow : xRemainingTime = 0 ∨ hasFlag R.xFlags freertosMsgDontwait = true
  · rw [if_pos hnow]
    refine ret_wp (.wouldBlock h.valid rfl h.taken h.counted ?_)
    rcases hnow with hz | hd
    · exact Or.inl (h.xReceiveBlockTime.trans hz)
    · exact Or.inr (Or.inl hd)
  · rw [if_neg hnow]
    refine wp.call_of_stable (LoopOk.stable (.wait none xRemainingTime)) h (fun _ _ => trivial) fun s t s' h hst => ?_
    cases hst with
    | vTaskSetTimeOutState =>
        refine prvWaitForPacket_wp h.toSignalled ⟨h.valid, h.taken, Nat.le_refl _, fun heq => ?_, fun _ => ?_⟩
        · exact h.xReceiveBlockTime.symm.trans heq
        · rw [h.xReceiveBlockTime]
          exact Nat.add_le_add_right h.called_le _

theorem prvRecvmsg_wp (l : RecvLoop) {s : RecvState} (h : LoopOk R l s) :
    wp (recvSem R cfg) (RecvPre R) (prvRecvmsg R l) (LoopOk R) s := by
  cases l with
  | call => exact prvRecvmsg_call_wp h
  | wait xTimeOut xRemainingTime =>
      cases xTimeOut with
      | none => exact prvRecvmsg_wait_wp h
      | some xTimeOut => exact prvWaitForPacket_wp h.1 h.2
  | returned r => exact ret_wp h

theorem RecvSound.of_wp {p : Prog RecvCalls RecvLoop} {s : RecvState}
    (h : wp (recvSem R cfg) (RecvPre R) p (LoopOk R) s) : RecvSound R p s where
  blocked := by
    rintro k rfl
    exact h.pre_call
  receive := by
    rintro herr k rfl
    have hpre : HasPacket R s := h.pre_call
    exact hpre.waiting herr
  returned := by
    rintro r rfl
    exact h s .refl

end FreeRtosTsn.Blocking
