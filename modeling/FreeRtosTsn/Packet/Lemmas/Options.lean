import FreeRtosTsn.Packet.Options
import FreeRtosTsn.Packet.Lemmas.Sockets

/-!
# What an option does

Each option as a function of the socket, and the ranges that it keeps.
-/

namespace FreeRtosTsn.Packet

open Lib Kernel

variable {cfg : Config} {w w' : World} {t : Addr} {s : TSNSocket}

/-! ## The PCP -/

theorem sameBelowPcp_set (x : UInt16) (v : Int) : SameBelowPcp (vlantagSetPcpFromTci x v) x := by
  intro i hi
  rw [vlantagSetPcpFromTci, UInt16.toNat_or, UInt16.toNat_and, UInt16.toNat_shiftLeft, Nat.testBit_or, Nat.testBit_and]
  have hmask : (0x1FFF : UInt16).toNat.testBit i = true := by
    rw [show (0x1FFF : UInt16).toNat = 2 ^ 13 - 1 from rfl, Nat.testBit_two_pow_sub_one]
    exact decide_eq_true hi
  have hshift : (UInt16.ofNat (v % 8).toNat).toNat <<< ((13 : UInt16).toNat % 16) = 
      (UInt16.ofNat (v % 8).toNat).toNat <<< 13 := rfl
  rw [hmask, hshift, Nat.testBit_mod_two_pow, Nat.testBit_shiftLeft]
  simp [Nat.not_le.mpr hi]

/-! ## Options as functions -/

/-- The socket after an option was taken; `none` is a value that was refused. -/
def optionTaken (s : TSNSocket) (lOptionName ulOptionValue : Int) : Option TSNSocket :=
  if lOptionName = freertosSoVlanCtagPcp then
    if ulOptionValue < 8 then
      some { s with
        usVLANCTagTCI := vlantagSetPcpFromTci s.usVLANCTagTCI ulOptionValue
        ucVLANTagsCount := if s.ucVLANTagsCount = 0 then 1 else s.ucVLANTagsCount }
    else none
  else if lOptionName = freertosSoVlanStagPcp then
    if ulOptionValue < 8 then
      some { s with
        usVLANSTagTCI := vlantagSetPcpFromTci s.usVLANSTagTCI ulOptionValue
        ucVLANTagsCount := 2 }
    else none
  else if lOptionName = freertosSoVlanTagRst then some { s with ucVLANTagsCount := 0 }
  else if lOptionName = freertosSoDsClass then
    if ulOptionValue < 64 then some { s with ucDSClass := UInt8.ofNat (ulOptionValue % 256).toNat } else none
  else if lOptionName = freertosSoTimestamping then
    if inTimestampingMask ulOptionValue then some { s with ulTSFlags := (ulOptionValue % 2 ^ 32).toNat } else none
  else none

/-- How a call ends: the value is taken, or nothing happens. -/
structure OptionRuns (t : Addr) (s : TSNSocket) (lOptionName ulOptionValue r : Int) (w w' : World) : Prop where
  taken : ∀ s', optionTaken s lOptionName ulOptionValue = some s' →
    r = 0 ∧ w'.heap t = some (.tsnSocket s') ∧ w'.baseSockets = w.baseSockets
  refused : optionTaken s lOptionName ulOptionValue = none →
    w' = w ∧ r ≠ 0 ∧ (r < 0 ↔ (lOptionName = freertosSoTimestamping → inTimestampingMask ulOptionValue = true))

theorem OptionRuns.of_taken {lOptionName ulOptionValue : Int} {s' : TSNSocket}
    (h : optionTaken s lOptionName ulOptionValue = some s') (hheap : w'.heap t = some (.tsnSocket s'))
    (hbase : w'.baseSockets = w.baseSockets) : OptionRuns t s lOptionName ulOptionValue 0 w w' := by
  constructor
  · intro s'' h'
    rw [h] at h'
    cases h'
    exact ⟨rfl, hheap, hbase⟩
  · intro h'
    rw [h] at h'
    cases h'

theorem OptionRuns.of_refused {lOptionName ulOptionValue r : Int} (h : optionTaken s lOptionName ulOptionValue = none)
    (hr : r ≠ 0) (hneg : r < 0 ↔ (lOptionName = freertosSoTimestamping → inTimestampingMask ulOptionValue = true)) :
    OptionRuns t s lOptionName ulOptionValue r w w := by
  constructor
  · intro s' h'
    rw [h] at h'
    cases h'
  · exact fun _ => ⟨rfl, hr, hneg⟩

theorem OptionRuns.of_negative {lOptionName ulOptionValue r : Int}
    (h : optionTaken s lOptionName ulOptionValue = none) (hname : lOptionName ≠ freertosSoTimestamping) (hr : r < 0) :
    OptionRuns t s lOptionName ulOptionValue r w w :=
  .of_refused h (Int.ne_of_lt hr) ⟨fun _ hn => absurd hn hname, fun _ => hr⟩

/-- An option of +TCP's that its socket does not know. -/
theorem run_freeRtosSetsockopt_unknown {k : SockId} {x : BaseSocket} (hx : w.baseSockets k = some x) {lOptionName : Int}
    (hn : lOptionName ∈ [freertosSoTimestamp, freertosSoTimestampNs]) (ulOptionValue : Int) :
    (freeRtosSetsockopt k lOptionName ulOptionValue).run w = .ok (-109) w := by
  have hne : lOptionName ≠ freertosSoRcvTimeo ∧ lOptionName ≠ freertosSoSndTimeo := by
    simp only [List.mem_cons, List.not_mem_nil, or_false] at hn
    rcases hn with rfl | rfl <;> decide
  rw [freeRtosSetsockopt, run_bind_ok (run_loadBaseSocket hx), if_neg hne.1, if_neg hne.2]
  rfl

theorem run_freeRtosTsnSetsockopt (hs : w.heap t = some (.tsnSocket s)) (hx : w.baseSockets s.xBaseSocket ≠ none)
    {lOptionName : Int} (hopt : TsnOption cfg lOptionName) (ulOptionValue : Int) :
    ∃ r w', (freeRtosTsnSetsockopt cfg t lOptionName ulOptionValue).run w = .ok r w' ∧
      OptionRuns t s lOptionName ulOptionValue r w w' := by
  obtain ⟨x, hx⟩ := Option.ne_none_iff_exists'.mp hx
  have hself : ∀ (w : World) (b : Block), (w.setBlock t (some b)).heap t = some b := fun w b => by simp
  have hno : ∀ {m : Int}, lOptionName ≠ m → ¬(cfg.tsnconfigSocketInsertsVlanTags = true ∧ lOptionName = m) :=
    fun h h' => h h'.2
  rw [freeRtosTsnSetsockopt, run_bind_ok (run_loadTsnSocket hs)]
  rcases hopt with hopt | ⟨hi, hopt⟩ <;> simp only [List.mem_cons, List.not_mem_nil, or_false] at hopt
  · rcases hopt with rfl | rfl | rfl | rfl <;> rw [if_neg (hno (by decide)), if_neg (hno (by decide)),
      if_neg (hno (by decide))]
    · rw [if_neg (by decide), if_neg (by decide), run_freeRtosSetsockopt_unknown hx (by decide)]
      exact ⟨_, _, rfl, .of_negative rfl (by decide) (by decide)⟩
    · rw [if_neg (by decide), if_neg (by decide), run_freeRtosSetsockopt_unknown hx (by decide)]
      exact ⟨_, _, rfl, .of_negative rfl (by decide) (by decide)⟩
    · rw [if_neg (by decide), if_pos rfl]
      by_cases hv : inTimestampingMask ulOptionValue
      · rw [if_pos hv]
        exact ⟨_, _, rfl, .of_taken (if_pos hv) (hself _ _) rfl⟩
      · rw [if_neg hv]
        exact ⟨_, _, rfl, .of_refused (if_neg hv) (by decide) ⟨fun h => absurd h (by decide), fun h => absurd (h rfl) hv⟩⟩
    · rw [if_pos rfl]
      by_cases hv : ulOptionValue < 64
      · rw [if_pos hv]
        exact ⟨_, _, rfl, .of_taken (if_pos hv) (hself _ _) rfl⟩
      · rw [if_neg hv]
        exact ⟨_, _, rfl, .of_negative (if_neg hv) (by decide) (by decide)⟩
  · rcases hopt with rfl | rfl | rfl
    · rw [if_pos ⟨hi, rfl⟩]
      by_cases hv : ulOptionValue < 8
      · rw [if_pos hv]
        exact ⟨_, _, rfl, .of_taken (if_pos hv) (hself _ _) rfl⟩
      · rw [if_neg hv]
        exact ⟨_, _, rfl, .of_negative (if_neg hv) (by decide) (by decide)⟩
    · rw [if_neg (hno (by decide)), if_pos ⟨hi, rfl⟩]
      by_cases hv : ulOptionValue < 8
      · rw [if_pos hv]
        exact ⟨_, _, rfl, .of_taken (if_pos hv) (hself _ _) rfl⟩
      · rw [if_neg hv]
        exact ⟨_, _, rfl, .of_negative (if_neg hv) (by decide) (by decide)⟩
    · rw [if_neg (hno (by decide)), if_neg (hno (by decide)), if_pos ⟨hi, rfl⟩]
      exact ⟨_, _, rfl, .of_taken rfl (hself _ _) rfl⟩

/-! ## What an option keeps -/

theorem optionTaken_cases {lOptionName ulOptionValue : Int} {s' : TSNSocket}
    (h : optionTaken s lOptionName ulOptionValue = some s') :
    (lOptionName = freertosSoVlanCtagPcp ∧ s' = { s with
      usVLANCTagTCI := vlantagSetPcpFromTci s.usVLANCTagTCI ulOptionValue
      ucVLANTagsCount := if s.ucVLANTagsCount = 0 then 1 else s.ucVLANTagsCount }) ∨
    (lOptionName = freertosSoVlanStagPcp ∧ s' = { s with
      usVLANSTagTCI := vlantagSetPcpFromTci s.usVLANSTagTCI ulOptionValue
      ucVLANTagsCount := 2 }) ∨
    (lOptionName = freertosSoVlanTagRst ∧ s' = { s with ucVLANTagsCount := 0 }) ∨
    (lOptionName = freertosSoDsClass ∧ ulOptionValue < 64 ∧
      s' = { s with ucDSClass := UInt8.ofNat (ulOptionValue % 256).toNat }) ∨
    (lOptionName = freertosSoTimestamping ∧ inTimestampingMask ulOptionValue = true ∧
      s' = { s with ulTSFlags := (ulOptionValue % 2 ^ 32).toNat }) := by
  rw [optionTaken] at h
  split at h
  · rename_i hn
    split at h
    · exact Or.inl ⟨hn, (Option.some.inj h).symm⟩
    · cases h
  · split at h
    · rename_i hn
      split at h
      · exact Or.inr (Or.inl ⟨hn, (Option.some.inj h).symm⟩)
      · cases h
    · split at h
      · rename_i hn
        exact Or.inr (Or.inr (Or.inl ⟨hn, (Option.some.inj h).symm⟩))
      · split at h
        · rename_i hn
          split at h
          · rename_i hv
            exact Or.inr (Or.inr (Or.inr (Or.inl ⟨hn, hv, (Option.some.inj h).symm⟩)))
          · cases h
        · split at h
          · rename_i hn
            split at h
            · rename_i hv
              exact Or.inr (Or.inr (Or.inr (Or.inr ⟨hn, hv, (Option.some.inj h).symm⟩)))
            · cases h
          · cases h

theorem TcisKept.of_eq {lOptionName : Int} {s' : TSNSocket} (hc : s'.usVLANCTagTCI = s.usVLANCTagTCI)
    (hs : s'.usVLANSTagTCI = s.usVLANSTagTCI) : TcisKept lOptionName s s' := by
  constructor
  · rw [hc]
    split
    · exact fun _ _ => rfl
    · rfl
  · rw [hs]
    split
    · exact fun _ _ => rfl
    · rfl

theorem optionTaken_tcisKept {lOptionName ulOptionValue : Int} {s' : TSNSocket}
    (h : optionTaken s lOptionName ulOptionValue = some s') : TcisKept lOptionName s s' := by
  rcases optionTaken_cases h with ⟨rfl, rfl⟩ | ⟨rfl, rfl⟩ | ⟨-, rfl⟩ | ⟨-, -, rfl⟩ | ⟨-, -, rfl⟩
  · exact ⟨by rw [if_pos rfl]; exact sameBelowPcp_set _ _, by rw [if_neg (by decide)]⟩
  · exact ⟨by rw [if_neg (by decide)], by rw [if_pos rfl]; exact sameBelowPcp_set _ _⟩
  · exact .of_eq rfl rfl
  · exact .of_eq rfl rfl
  · exact .of_eq rfl rfl

theorem optionTaken_xBaseSocket {lOptionName ulOptionValue : Int} {s' : TSNSocket}
    (h : optionTaken s lOptionName ulOptionValue = some s') : s'.xBaseSocket = s.xBaseSocket := by
  rcases optionTaken_cases h with ⟨-, rfl⟩ | ⟨-, rfl⟩ | ⟨-, rfl⟩ | ⟨-, -, rfl⟩ | ⟨-, -, rfl⟩ <;> rfl

/-- The class is what a negative value leaves in eight bits. -/
theorem dsClass_lt_iff (v : Int) : UInt8.ofNat (v % 256).toNat < 64 ↔ v % 256 < 64 := by
  have h0 : 0 ≤ v % 256 := Int.emod_nonneg v (by decide)
  have h1 : v % 256 < 256 := Int.emod_lt_of_pos v (by decide)
  rw [UInt8.lt_iff_toNat_lt, UInt8.toNat_ofNat', Nat.mod_eq_of_lt (by omega), show (64 : UInt8).toNat = 64 from rfl]
  omega

/-- Only the class can leave its range. -/
theorem optionTaken_optionsOk_iff {lOptionName ulOptionValue : Int} {s' : TSNSocket} (hok : OptionsOk cfg s)
    (h : optionTaken s lOptionName ulOptionValue = some s') :
    OptionsOk cfg s' ↔ (lOptionName = freertosSoDsClass → ulOptionValue % 256 < 64) := by
  obtain ⟨hcount, hds, hts⟩ := hok
  rcases optionTaken_cases h with ⟨rfl, rfl⟩ | ⟨rfl, rfl⟩ | ⟨rfl, rfl⟩ | ⟨rfl, hv, rfl⟩ | ⟨rfl, hmask, rfl⟩
  · refine ⟨fun _ h => absurd h (by decide), fun _ => ⟨fun hi => ?_, hds, hts⟩⟩
    have hle := hcount hi
    show (if s.ucVLANTagsCount = 0 then 1 else s.ucVLANTagsCount) ≤ 2
    split <;> omega
  · exact ⟨fun _ h => absurd h (by decide), fun _ => ⟨fun _ => Nat.le_refl 2, hds, hts⟩⟩
  · exact ⟨fun _ h => absurd h (by decide), fun _ => ⟨fun _ => Nat.zero_le 2, hds, hts⟩⟩
  · constructor
    · exact fun h' _ => (dsClass_lt_iff _).mp h'.ucDSClass
    · exact fun h' => ⟨hcount, (dsClass_lt_iff _).mpr (h' rfl), hts⟩
  · exact ⟨fun _ h => absurd h (by decide), fun _ => ⟨hcount, hds, of_decide_eq_true hmask⟩⟩

/-! ## Calls -/

/-- A call on a socket that is in its ranges. -/
theorem callKeeps_iff (hs : w.heap t = some (.tsnSocket s)) (hok : OptionsOk cfg s) {lOptionName ulOptionValue r : Int}
    (h : OptionRuns t s lOptionName ulOptionValue r w w') :
    CallKeeps cfg t lOptionName r w w' ↔ CallFits (lOptionName, ulOptionValue) := by
  cases ho : optionTaken s lOptionName ulOptionValue with
  | some s' =>
      obtain ⟨rfl, hs', -⟩ := h.taken s' ho
      have hiff := optionTaken_optionsOk_iff hok ho
      constructor
      · intro hk
        obtain ⟨s'', hs'', hok'⟩ := hk.optionsOk
        cases hs'.symm.trans hs''
        refine ⟨fun hn => Or.inr (hiff.mp hok' hn), fun hn => ?_⟩
        rcases optionTaken_cases ho with ⟨h', -⟩ | ⟨h', -⟩ | ⟨h', -⟩ | ⟨h', -⟩ | ⟨-, hmask, -⟩
        · exact absurd (h'.symm.trans hn) (by decide)
        · exact absurd (h'.symm.trans hn) (by decide)
        · exact absurd (h'.symm.trans hn) (by decide)
        · exact absurd (h'.symm.trans hn) (by decide)
        · exact hmask
      · intro hfit
        refine ⟨fun h0 => absurd rfl h0, ?_, s', hs', hiff.mpr fun hn => (hfit.1 hn).resolve_left ?_⟩
        · intro s₀ s₁ h₀ h₁
          cases hs.symm.trans h₀
          cases hs'.symm.trans h₁
          exact optionTaken_tcisKept ho
        · rcases optionTaken_cases ho with ⟨h', -⟩ | ⟨h', -⟩ | ⟨h', -⟩ | ⟨-, hv, -⟩ | ⟨h', -⟩
          · exact absurd (h'.symm.trans hn) (by decide)
          · exact absurd (h'.symm.trans hn) (by decide)
          · exact absurd (h'.symm.trans hn) (by decide)
          · exact Int.not_le.mpr hv
          · exact absurd (h'.symm.trans hn) (by decide)
  | none =>
      obtain ⟨rfl, hr, hneg⟩ := h.refused ho
      constructor
      · intro hk
        refine ⟨fun hn => Or.inl ?_, hneg.mp (hk.rejected hr).1⟩
        subst hn
        refine Int.not_lt.mp fun hv => ?_
        have htaken : optionTaken s freertosSoDsClass ulOptionValue = some _ := if_pos hv
        rw [ho] at htaken
        cases htaken
      · intro hfit
        refine ⟨fun _ => ⟨hneg.mpr hfit.2, rfl⟩, ?_, s, hs, hok⟩
        intro s₀ s₁ h₀ h₁
        cases h₀.symm.trans h₁
        exact .of_eq rfl rfl

/-- The ranges are kept over the calls exactly when each call fits. -/
theorem callsKeep_iff (hs : w.heap t = some (.tsnSocket s)) (hx : w.baseSockets s.xBaseSocket ≠ none)
    (hok : OptionsOk cfg s) (calls : List (Int × Int)) (hopts : ∀ c ∈ calls, TsnOption cfg c.1) :
    CallsKeep cfg t calls w ↔ ∀ c ∈ calls, CallFits c := by
  induction calls generalizing w s with
  | nil => simp [CallsKeep]
  | cons c calls ih =>
      obtain ⟨lOptionName, ulOptionValue⟩ := c
      obtain ⟨hopt, hopts⟩ := List.forall_mem_cons.mp hopts
      obtain ⟨r, w', hrun, hruns⟩ := run_freeRtosTsnSetsockopt hs hx hopt ulOptionValue
      have hstep : CallsKeep cfg t ((lOptionName, ulOptionValue) :: calls) w ↔
          CallKeeps cfg t lOptionName r w w' ∧ CallsKeep cfg t calls w' := by
        constructor
        · rintro ⟨r₁, w₁, hrun₁, hk, hks⟩
          cases hrun.symm.trans hrun₁
          exact ⟨hk, hks⟩
        · rintro ⟨hk, hks⟩
          exact ⟨r, w', hrun, hk, hks⟩
      rw [hstep, List.forall_mem_cons, ← callKeeps_iff hs hok hruns]
      refine and_congr_right fun hk => ?_
      obtain ⟨s', hs', hok'⟩ := hk.optionsOk
      have hx' : w'.baseSockets s'.xBaseSocket ≠ none := by
        cases ho : optionTaken s lOptionName ulOptionValue with
        | some s'' =>
            obtain ⟨-, hs'', hbase⟩ := hruns.taken s'' ho
            cases hs''.symm.trans hs'
            rw [hbase, optionTaken_xBaseSocket ho]
            exact hx
        | none =>
            obtain ⟨rfl, -⟩ := hruns.refused ho
            cases hs.symm.trans hs'
            exact hx
      exact ih hs' hx' hok' hopts

/-! ## Creation -/

theorem freeRtosSocket_inv {bIsIPv6 : Bool} {k : SockId} (h : (freeRtosSocket bIsIPv6).run w = .ok (some k) w') :
    w'.baseSockets k ≠ none := by
  obtain ⟨n, w₁, hcall, h⟩ := run_bind_inv h
  obtain ⟨w₂, w₃, hget, h⟩ := run_bind_inv h
  cases hget
  split at h
  · cases h
    simp
  · cases h

theorem xQueueCreate_baseSockets {q : Option QueueHandle} (h : xQueueCreate.run w = .ok q w') :
    w'.baseSockets = w.baseSockets := by
  obtain ⟨n, w₁, hcall, h⟩ := run_bind_inv h
  obtain ⟨w₂, w₃, hget, h⟩ := run_bind_inv h
  cases hcall
  cases hget
  split at h <;> cases h <;> rfl

theorem optionsOk_handles (xBaseSocket : SockId) (xErrQueue : QueueHandle) :
    OptionsOk cfg { s with xBaseSocket, xErrQueue } ↔ OptionsOk cfg s := by
  constructor
  · exact fun h => ⟨h.ucVLANTagsCount, h.ucDSClass, h.ulTSFlags⟩
  · exact fun h => ⟨h.ucVLANTagsCount, h.ucDSClass, h.ulTSFlags⟩

/-- A new socket has its handles; the other fields are what the memory held. -/
theorem freeRtosTsnSocket_inv {bIsIPv6 : Bool} {xType : Nat}
    (h : (freeRtosTsnSocket cfg bIsIPv6 xType).run w = .ok (some t) w') :
    ∃ xBaseSocket xErrQueue, w'.baseSockets xBaseSocket ≠ none ∧
      w'.heap t = some (.tsnSocket { prvJunkSocket cfg w.env.junk with xBaseSocket, xErrQueue }) := by
  rw [freeRtosTsnSocket] at h
  split at h
  · cases h
  · obtain ⟨w₀, w₁, hget, h⟩ := run_bind_inv h
    cases hget
    obtain ⟨pxSocket, w₁, hmalloc, h⟩ := run_bind_inv h
    cases pxSocket with
    | none => cases h
    | some pxSocket =>
        obtain ⟨xBaseSocket, w₂, hsocket, h⟩ := run_bind_inv h
        cases xBaseSocket with
        | none =>
            obtain ⟨_, w₃, -, h⟩ := run_bind_inv h
            cases h
        | some xBaseSocket =>
            obtain ⟨_, w₃, hstore, h⟩ := run_bind_inv h
            obtain ⟨xErrQueue, w₄, hqueue, h⟩ := run_bind_inv h
            cases xErrQueue with
            | none =>
                obtain ⟨_, w₅, -, h⟩ := run_bind_inv h
                cases h
            | some xErrQueue =>
                obtain ⟨_, w₅, hstore', h⟩ := run_bind_inv h
                cases h
                cases hstore
                cases hstore'
                refine ⟨xBaseSocket, xErrQueue, ?_, by simp⟩
                have hkeep : w₄.baseSockets = w₂.baseSockets := (xQueueCreate_baseSockets hqueue).trans rfl
                show w₄.baseSockets xBaseSocket ≠ none
                rw [hkeep]
                exact freeRtosSocket_inv hsocket

end FreeRtosTsn.Packet
