import FreeRtosTsn.Packet.Lemmas.Send

/-!
# The room for a frame

What a send writes keeps to its buffer unless the size of the buffer wrapped.
-/

namespace FreeRtosTsn.Packet

open Lib Kernel Scheduler

variable {cfg : Config} {w w' : World} {t : Addr} {s : TSNSocket} {x : BaseSocket} {p : List UInt8} {dest : Destination}

theorem overrunsOf_within {cap n : Nat} (h : cap ≤ n) (b : BufId) (fs : List (Nat × List UInt8)) :
    (∀ a ∈ overrunsOf cap b fs, a.1 = b ∧ a.2.1 + a.2.2 ≤ n) ↔ ∀ f ∈ fs, f.1 + f.2.length ≤ n := by
  constructor
  · intro hall f hf
    by_cases hfit : f.1 + f.2.length ≤ cap
    · exact hfit.trans h
    · have hover : (b, f.1, f.2.length) ∈ overrunsOf cap b fs :=
        List.mem_map.mpr ⟨f, List.mem_filter.mpr ⟨hf, by simpa using hfit⟩, rfl⟩
      exact (hall _ hover).2
  · intro hall a ha
    obtain ⟨f, hf, rfl⟩ := List.mem_map.mp ha
    exact ⟨rfl, hall f (List.mem_filter.mp hf).1⟩

/-- The headers reach up to the payload, and the padding to the size of the smallest frame. -/
theorem prvPreparation_within {bs : List UInt8} (h : prvTypeField cfg s = some bs) (d : NetworkBufferDescriptor)
    (endPoints : EndPointId → EndPoint) (xMac : MACAddress) (e : EndPointId) {n : Nat}
    (hn : cfg.ipconfigEthernetMinimumPacketBytes ≤ n) :
    (∀ f ∈ (prvPreparation cfg s d endPoints (some (xMac, e))).fields, f.1 + f.2.length ≤ n) ↔
      42 + socketTagSize cfg s ≤ n := by
  have hlen := prvTypeField_length h
  have hpad : ∀ f ∈ prvPadding cfg d.xDataLength, f.1 + f.2.length ≤ n := by
    rw [prvPadding]
    split
    · simp
      omega
    · simp
  simp only [prvPreparation, h]
  generalize socketTagSize cfg s = k at hlen ⊢
  constructor
  · intro hall
    have hlast := hall (14 + k + 20 + 6, bytes16 0) (by simp [prvIpFields])
    simp only [bytes16_length] at hlast
    omega
  · intro hk f hf
    rcases List.mem_append.mp hf with hf | hf
    · have hheaders : ∀ f ∈ [(0, List.replicate 6 0), (0, xMac.toList), (6, (endPoints e).xMACAddress.toList)] ++ (12, bs) ::
          prvIpFields cfg s d (endPoints e) (14 + k) (sub32 (sub32 d.xDataLength 42) k), f.1 + f.2.length ≤ n := by
        simp [prvIpFields, hlen]
        omega
      exact hheaders f hf
    · exact hpad f hf

/-- The payload is only written when the size did not wrap, and then has room. -/
theorem payloadWorld_overruns (h : prvTypeField cfg s ≠ none) (hfits : p.length ≤ cfg.ipconfigNetworkMtu - 28) :
    (payloadWorld cfg s x dest p w).overruns = (preparedWorld cfg s x dest p w).overruns := by
  have hmtu := cfg.mtu_le
  obtain ⟨bs, hbs⟩ := Option.ne_none_iff_exists'.mp h
  have htags := socketTagSize_le hbs
  have hsize : sendSize cfg s p.length = p.length + (42 + socketTagSize cfg s) := sendSize_of_fits (by omega)
  have hcap : (preparedWorld cfg s x dest p w).cap w.calls = p.length + (42 + socketTagSize cfg s) := by
    simp [preparedWorld, obtainedWorld, hsize]
  rw [payloadWorld, wrote_overruns, hcap, overrunsOf, List.filter_cons_of_neg (by simp; omega)]
  exact List.append_nil _

theorem preparedWorld_overruns : (preparedWorld cfg s x dest p w).overruns =
    w.overruns ++ overrunsOf (sendSize cfg s p.length) w.calls (sendPreparation cfg s x dest p w).fields := by
  simp [preparedWorld, obtainedWorld]

/-- Whatever becomes of a send over IPv4, it wrote what its headers take. -/
theorem Sent.overruns {r : Int} (h : Sent cfg s x dest p w r w') (htype : prvTypeField cfg s ≠ none) :
    w'.overruns = w.overruns ++
      overrunsOf (sendSize cfg s p.length) w.calls (sendPreparation cfg s x dest p w).fields := by
  rw [← preparedWorld_overruns]
  cases h with
  | accepted hacc hpush =>
      rw [hpush.eq]
      exact payloadWorld_overruns htype hacc.fits
  | early => rfl
  | late _ _ hfits => exact payloadWorld_overruns htype hfits

/-- The headers have room exactly when the size did not wrap or the smallest frame holds them. -/
theorem headers_fit_iff {n : Nat} (hn : n < 2 ^ 32) (htags : socketTagSize cfg s ≤ 8) :
    42 + socketTagSize cfg s ≤ max (sendSize cfg s n) cfg.ipconfigEthernetMinimumPacketBytes ↔
      n + 42 + socketTagSize cfg s < 2 ^ 32 ∨ 42 + socketTagSize cfg s ≤ cfg.ipconfigEthernetMinimumPacketBytes := by
  rw [sendSize, wrap32]
  omega

theorem sent_within_iff {r : Int} (h : Sent cfg s x dest p w r w') (htype : prvTypeField cfg s ≠ none)
    (hp : p.length < 2 ^ 32) :
    AccessesWithin w.calls (max (sendSize cfg s p.length) cfg.ipconfigEthernetMinimumPacketBytes) w w' ↔
      if (w.env.eARPGetCacheEntry dest.sinAddress.ulIPv4).isSome then
        p.length + 42 + socketTagSize cfg s < 2 ^ 32 ∨ 42 + socketTagSize cfg s ≤ cfg.ipconfigEthernetMinimumPacketBytes
      else 6 ≤ max (sendSize cfg s p.length) cfg.ipconfigEthernetMinimumPacketBytes := by
  obtain ⟨bs, hbs⟩ := Option.ne_none_iff_exists'.mp htype
  have hwithin : AccessesWithin w.calls (max (sendSize cfg s p.length) cfg.ipconfigEthernetMinimumPacketBytes) w w' ↔
      ∀ f ∈ (sendPreparation cfg s x dest p w).fields,
        f.1 + f.2.length ≤ max (sendSize cfg s p.length) cfg.ipconfigEthernetMinimumPacketBytes := by
    rw [← overrunsOf_within (Nat.le_max_left _ _) w.calls]
    constructor
    · rintro ⟨accesses, heq, hall⟩
      rw [← List.append_cancel_left ((h.overruns htype).symm.trans heq)] at hall
      exact hall
    · exact fun hall => ⟨_, h.overruns htype, hall⟩
  rw [hwithin, sendPreparation]
  rcases w.env.eARPGetCacheEntry dest.sinAddress.ulIPv4 with _ | ⟨xMac, e⟩
  · simp [prvPreparation]
  · rw [prvPreparation_within hbs _ _ _ _ (Nat.le_max_right _ _), headers_fit_iff hp (socketTagSize_le hbs)]
    simp

end FreeRtosTsn.Packet
