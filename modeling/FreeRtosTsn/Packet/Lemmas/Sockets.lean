import FreeRtosTsn.Packet.Lemmas.Deliver

/-!
# Binding and closing a socket

What the two steps of `FreeRTOS_TSN_bind` and of `FreeRTOS_TSN_closesocket` change.
-/

namespace FreeRtosTsn.Packet

open Lib Kernel

variable {w w' : World} {t : Addr} {k : SockId} {s : TSNSocket} {x : BaseSocket}

theorem loadBaseSocket_inv (h : (loadBaseSocket k).run w = .ok x w') : w' = w ∧ w.baseSockets k = some x := by
  cases hx : w.baseSockets k with
  | some y =>
      rw [run_loadBaseSocket hx] at h
      cases h
      exact ⟨rfl, rfl⟩
  | none =>
      have hload : (loadBaseSocket k).run w = .error .heap w := by
        simp -implicitDefEqProofs [loadBaseSocket, hx]
      rw [hload] at h
      cases h

theorem loadTsnSocket_inv (h : (loadTsnSocket t).run w = .ok s w') : w' = w ∧ w.heap t = some (.tsnSocket s) := by
  rw [loadTsnSocket, loadBlock, run_bind_ok (EStateM.run_get w)] at h
  split at h
  · rename_i x hx
    cases h
    obtain ⟨b, hb, hkind⟩ := Option.bind_eq_some_iff.mp hx
    cases b with
    | tsnSocket s' =>
        cases hkind
        exact ⟨rfl, hb⟩
    | _ => cases hkind
  · cases h

/-! ## Binding -/

def boundBase (w : World) (k : SockId) (x : BaseSocket) (usPort : UInt16) : World :=
  (w.tick.setBaseSocket k (some { x with bBound := true, usLocalPort := swap16 usPort })).setBound
    (w.xBoundUDPSocketsList ++ [(usPort, k)])

/-- A socket is bound at most once, and to a port that is free. -/
theorem freeRtosBind_cases (hx : w.baseSockets k = some x) (sinPort : UInt16) :
    (freeRtosBind k sinPort).run w = .ok false w.tick ∨
      x.bBound = false ∧ ∃ usPort, prvLookup usPort w.xBoundUDPSocketsList = none ∧
        (freeRtosBind k sinPort).run w = .ok true (boundBase w k x usPort) := by
  have hcall : nextCall.run w = .ok w.calls w.tick := rfl
  have hx' : w.tick.baseSockets k = some x := hx
  rw [freeRtosBind, run_bind_ok hcall, run_bind_ok (run_loadBaseSocket hx'), run_bind_ok (EStateM.run_get _)]
  dsimp only
  generalize (if sinPort = 0 then w.tick.env.prvGetPrivatePortNumber w.calls else sinPort) = usPort
  split
  · rename_i hc
    exact Or.inr ⟨hc.2.1, usPort, hc.2.2.2, rfl⟩
  · exact Or.inl rfl

theorem freeRtosBind_inv {sinPort : UInt16} {bOk : Bool} (h : (freeRtosBind k sinPort).run w = .ok bOk w') :
    ∃ x, w.baseSockets k = some x ∧
      if bOk then x.bBound = false ∧ ∃ usPort, w' = boundBase w k x usPort else w' = w.tick := by
  have hcall : nextCall.run w = .ok w.calls w.tick := rfl
  have h₀ := h
  rw [freeRtosBind, run_bind_ok hcall] at h₀
  obtain ⟨x, w₁, hload, -⟩ := run_bind_inv h₀
  have hx : w.baseSockets k = some x := (loadBaseSocket_inv hload).2
  refine ⟨x, hx, ?_⟩
  rcases freeRtosBind_cases hx sinPort with hfail | ⟨hb, usPort, -, hok⟩
  · cases hfail.symm.trans h
    rfl
  · cases hok.symm.trans h
    exact ⟨hb, usPort, rfl⟩

theorem run_vTsnSocketInsert (hs : w.heap t = some (.tsnSocket s)) (hx : w.baseSockets s.xBaseSocket = some x) :
    (vTsnSocketInsert t).run w = .ok () (w.setTsnBound (w.xTSNBoundUDPSocketList ++ [(swap16 x.usLocalPort, t)])) := by
  rw [vTsnSocketInsert, run_bind_ok (run_loadTsnSocket hs), run_bind_ok (run_loadBaseSocket hx)]
  rfl

theorem vTsnSocketInsert_inv (hs : w.heap t = some (.tsnSocket s)) (h : (vTsnSocketInsert t).run w = .ok () w') :
    ∃ x, w.baseSockets s.xBaseSocket = some x ∧
      w' = w.setTsnBound (w.xTSNBoundUDPSocketList ++ [(swap16 x.usLocalPort, t)]) := by
  have h₀ := h
  rw [vTsnSocketInsert, run_bind_ok (run_loadTsnSocket hs)] at h₀
  obtain ⟨x, w₁, hload, -⟩ := run_bind_inv h₀
  obtain ⟨rfl, hx⟩ := loadBaseSocket_inv hload
  cases (run_vTsnSocketInsert hs hx).symm.trans h
  exact ⟨x, hx, rfl⟩

def boundTsn (w : World) (t : Addr) (k : SockId) (x : BaseSocket) (usPort : UInt16) : World :=
  (boundBase w k x usPort).setTsnBound (w.xTSNBoundUDPSocketList ++ [(usPort, t)])

theorem freeRtosTsnBind_cases (hs : w.heap t = some (.tsnSocket s)) (hx : w.baseSockets s.xBaseSocket = some x)
    (sinPort : UInt16) :
    (freeRtosTsnBind t sinPort).run w = .ok false w.tick ∨
      x.bBound = false ∧ ∃ usPort, prvLookup usPort w.xBoundUDPSocketsList = none ∧
        (freeRtosTsnBind t sinPort).run w = .ok true (boundTsn w t s.xBaseSocket x usPort) := by
  rw [freeRtosTsnBind, run_bind_ok (run_loadTsnSocket hs)]
  rcases freeRtosBind_cases hx sinPort with hfail | ⟨hb, usPort, hfree, hok⟩
  · rw [run_bind_ok hfail]
    exact Or.inl rfl
  · have hs' : (boundBase w s.xBaseSocket x usPort).heap t = some (.tsnSocket s) := hs
    have hx' : (boundBase w s.xBaseSocket x usPort).baseSockets s.xBaseSocket =
        some { x with bBound := true, usLocalPort := swap16 usPort } := Function.update_self _ _ _
    refine Or.inr ⟨hb, usPort, hfree, ?_⟩
    rw [run_bind_ok hok, if_pos rfl, run_bind_ok (run_vTsnSocketInsert hs' hx')]
    dsimp only
    rw [swap16_swap16]
    rfl

/-! ## Closing -/

theorem run_vReleaseAll (bs : List BufId) :
    (vReleaseAll bs).run w =
      .ok () { w with released := w.released ++ bs.map fun b => (b, (w.bufs b).pucEthernetBuffer) } := by
  induction bs generalizing w with
  | nil => simp -implicitDefEqProofs [vReleaseAll]
  | cons b bs ih =>
      rw [vReleaseAll, run_bind_ok (run_vReleaseNetworkBufferAndDescriptor w b), ih]
      simp

def closedBase (w : World) (k : SockId) (x : BaseSocket) : World :=
  (({ w with
      released := w.released ++ x.xWaitingPacketsList.map fun b => (b, (w.bufs b).pucEthernetBuffer) } : World).setBound
    (w.xBoundUDPSocketsList.filter fun e => e.2 != k)).setBaseSocket k none

theorem run_freeRtosClosesocket (hx : w.baseSockets k = some x) :
    (freeRtosClosesocket k).run w = .ok () (closedBase w k x) := by
  rw [freeRtosClosesocket, run_bind_ok (run_loadBaseSocket hx), run_bind_ok (run_vReleaseAll _)]
  rfl

theorem freeRtosClosesocket_inv (h : (freeRtosClosesocket k).run w = .ok () w') :
    ∃ x, w.baseSockets k = some x ∧ w' = closedBase w k x := by
  obtain ⟨x, w₁, hload, -⟩ := run_bind_inv h
  obtain ⟨rfl, hx⟩ := loadBaseSocket_inv hload
  rw [run_freeRtosClosesocket hx] at h
  cases h
  exact ⟨x, hx, rfl⟩

/-- The state after a TSN socket was taken out of the list. -/
def unlisted (w : World) (t : Addr) : World := w.setTsnBound (w.xTSNBoundUDPSocketList.filter fun e => e.2 != t)

theorem run_vTsnSocketRemove (h : ∃ p, (p, t) ∈ w.xTSNBoundUDPSocketList) :
    (vTsnSocketRemove t).run w = .ok () (unlisted w t) := by
  have hany : (w.xTSNBoundUDPSocketList.any fun e => e.2 == t) = true := by
    obtain ⟨p, hp⟩ := h
    exact List.any_eq_true.mpr ⟨(p, t), hp, by simp⟩
  rw [vTsnSocketRemove, run_bind_ok (EStateM.run_get w), if_pos hany]
  rfl

/-- An item that is in no list cannot be removed. -/
theorem run_vTsnSocketRemove_unlisted (h : ¬∃ p, (p, t) ∈ w.xTSNBoundUDPSocketList) :
    (vTsnSocketRemove t).run w = .error .heap w := by
  have hany : ¬(w.xTSNBoundUDPSocketList.any fun e => e.2 == t) = true := by
    intro hc
    obtain ⟨e, he, ht⟩ := List.any_eq_true.mp hc
    exact h ⟨e.1, by rw [← beq_iff_eq.mp ht]; exact he⟩
  rw [vTsnSocketRemove, run_bind_ok (EStateM.run_get w), if_neg hany]
  rfl

theorem vTsnSocketRemove_inv (h : (vTsnSocketRemove t).run w = .ok () w') :
    (∃ p, (p, t) ∈ w.xTSNBoundUDPSocketList) ∧ w' = unlisted w t := by
  by_cases hp : ∃ p, (p, t) ∈ w.xTSNBoundUDPSocketList
  · cases (run_vTsnSocketRemove hp).symm.trans h
    exact ⟨hp, rfl⟩
  · cases (run_vTsnSocketRemove_unlisted hp).symm.trans h

theorem run_freeRtosTsnClosesocket (ht : ∃ p, (p, t) ∈ w.xTSNBoundUDPSocketList)
    (hs : w.heap t = some (.tsnSocket s)) (hx : w.baseSockets s.xBaseSocket = some x) :
    (freeRtosTsnClosesocket t).run w = .ok () (closedBase (unlisted w t) s.xBaseSocket x) := by
  have hs' : (unlisted w t).heap t = some (.tsnSocket s) := hs
  rw [freeRtosTsnClosesocket, run_bind_ok (run_vTsnSocketRemove ht), run_bind_ok (run_loadTsnSocket hs')]
  exact run_freeRtosClosesocket hx

theorem freeRtosTsnClosesocket_inv (hs : w.heap t = some (.tsnSocket s))
    (h : (freeRtosTsnClosesocket t).run w = .ok () w') :
    ∃ x, w.baseSockets s.xBaseSocket = some x ∧ w' = closedBase (unlisted w t) s.xBaseSocket x := by
  obtain ⟨_, w₁, hremove, h₁⟩ := run_bind_inv h
  obtain ⟨-, rfl⟩ := vTsnSocketRemove_inv hremove
  have hs' : (unlisted w t).heap t = some (.tsnSocket s) := hs
  rw [run_bind_ok (run_loadTsnSocket hs')] at h₁
  exact freeRtosClosesocket_inv h₁

/-! ## Options -/

/-- The option that resets the error queue. -/
def ResetsErrors (lOptionName ulOptionValue : Int) : Prop :=
  lOptionName = freertosSoTimestamping ∧ inTimestampingMask ulOptionValue = true

/-- How `FreeRTOS_TSN_setsockopt` ends: the socket keeps its base socket and its error queue. -/
inductive OptionOutcome (w : World) (t : Addr) (s : TSNSocket) (lOptionName ulOptionValue : Int) : World → Prop
  | refused : ¬ResetsErrors lOptionName ulOptionValue → OptionOutcome w t s lOptionName ulOptionValue w
  | stored {s' : TSNSocket} : ¬ResetsErrors lOptionName ulOptionValue → s'.xBaseSocket = s.xBaseSocket →
      s'.xErrQueue = s.xErrQueue →
      OptionOutcome w t s lOptionName ulOptionValue (w.setBlock t (some (.tsnSocket s')))
  | reset {s' : TSNSocket} : ResetsErrors lOptionName ulOptionValue → s'.xBaseSocket = s.xBaseSocket →
      s'.xErrQueue = s.xErrQueue →
      OptionOutcome w t s lOptionName ulOptionValue
        ((w.setErrQueue s.xErrQueue []).setBlock t (some (.tsnSocket s')))
  | base {x x' : BaseSocket} : ¬ResetsErrors lOptionName ulOptionValue → w.baseSockets s.xBaseSocket = some x →
      x'.bBound = x.bBound → x'.usLocalPort = x.usLocalPort →
      OptionOutcome w t s lOptionName ulOptionValue (w.setBaseSocket s.xBaseSocket (some x'))

theorem freeRtosTsnSetsockopt_inv {cfg : Config} {lOptionName ulOptionValue r : Int}
    (hs : w.heap t = some (.tsnSocket s))
    (h : (freeRtosTsnSetsockopt cfg t lOptionName ulOptionValue).run w = .ok r w') :
    OptionOutcome w t s lOptionName ulOptionValue w' := by
  rw [freeRtosTsnSetsockopt, run_bind_ok (run_loadTsnSocket hs)] at h
  have hother : ∀ name, name ≠ freertosSoTimestamping → lOptionName = name →
      ¬ResetsErrors lOptionName ulOptionValue := fun name hne heq hr => hne (heq.symm.trans hr.1)
  split at h
  · rename_i hn
    have hr := hother _ (by decide) hn.2
    split at h
    · cases h
      exact .stored hr rfl rfl
    · cases h
      exact .refused hr
  · split at h
    · rename_i hn
      have hr := hother _ (by decide) hn.2
      split at h
      · cases h
        exact .stored hr rfl rfl
      · cases h
        exact .refused hr
    · split at h
      · rename_i hn
        cases h
        exact .stored (hother _ (by decide) hn.2) rfl rfl
      · split at h
        · rename_i hn
          have hr := hother _ (by decide) hn
          split at h
          · cases h
            exact .stored hr rfl rfl
          · cases h
            exact .refused hr
        · split at h
          · rename_i hn
            split at h
            · rename_i hmask
              cases h
              exact .reset ⟨hn, hmask⟩ rfl rfl
            · rename_i hmask
              cases h
              exact .refused fun hr => hmask hr.2
          · rename_i hn
            have hr : ¬ResetsErrors lOptionName ulOptionValue := fun hr => hn hr.1
            obtain ⟨x, w₁, hload, h₁⟩ := run_bind_inv h
            obtain ⟨rfl, hx⟩ := loadBaseSocket_inv hload
            split at h₁
            · cases h₁
              exact .base hr hx rfl rfl
            · split at h₁
              · cases h₁
                exact .base hr hx rfl rfl
              · cases h₁
                exact .refused hr

end FreeRtosTsn.Packet
