import FreeRtosTsn.Kernel.World

/-!
# FreeRTOS-Plus-TCP and the driver

The functions of code outside the repository that the code calls. Whether a call succeeds is read from `Env`.
-/

namespace FreeRtosTsn.Kernel

open Lib

/-- Counts a call to code outside the repository. -/
def nextCall : M Nat := do
  let w ← get
  set w.tick
  return w.calls

/-! ## Network buffers -/

/-- A descriptor with an Ethernet buffer of `xRequestedSizeBytes`, or null. -/
def pxGetNetworkBufferWithDescriptor (xRequestedSizeBytes : Nat) : M (Option BufId) := do
  let b ← nextCall
  let w ← get
  if w.env.pxGetNetworkBufferWithDescriptor b then
    set (((w.setBuf b ⟨.eth b 0, xRequestedSizeBytes, none, none, 0, 0, .ipv4 0⟩).setMem b w.env.junk).setCap b
      xRequestedSizeBytes)
    return some b
  else
    return none

/-- The same descriptor with a buffer of the new size that starts with the old contents, or null. -/
def pxResizeNetworkBufferWithDescriptor (b : BufId) (xNewSizeBytes : Nat) : M (Option BufId) := do
  let n ← nextCall
  let w ← get
  if w.env.pxResizeNetworkBufferWithDescriptor n then
    set (w.setCap b xNewSizeBytes)
    return some b
  else
    return none

def vReleaseNotNull : Option BufId → M Unit
  | none => return ()
  | some b => vReleaseNetworkBufferAndDescriptor b

/-- The frame leaves the node if the driver takes it. The buffer is released when asked for, in any case. -/
def xMacNetworkInterfaceOutput (b : BufId) (bReleaseAfterSend : Bool) : M Bool := do
  let n ← nextCall
  let d ← loadBuf b
  let bs ← readBytes d.pucEthernetBuffer d.xDataLength
  let bSent := (← get).env.xMacNetworkInterfaceOutput n
  if bSent then
    modify fun w => w.emit bs
  if bReleaseAfterSend then
    vReleaseNetworkBufferAndDescriptor b
  return bSent

/-! ## The IP task -/

def xSendEventStructToIPTask (b : BufId) : M Bool := do
  let n ← nextCall
  let w ← get
  if w.env.xSendEventStructToIPTask n then
    set (w.toIPTask b)
    return true
  else
    return false

/-- `pdPASS` takes the buffer over. -/
def xProcessReceivedUDPPacket (b : BufId) : M Bool := do
  let n ← nextCall
  let w ← get
  if w.env.xProcessReceivedUDPPacket n then
    set (w.toUDP b)
    return true
  else
    return false

/-! ## Sockets -/

/-- The first socket in a list of bound sockets with this key. -/
def prvLookup {α : Type} (usKey : UInt16) (xs : List (UInt16 × α)) : Option α :=
  (xs.find? fun x => x.1 == usKey).map Prod.snd

theorem prvLookup_mem {α : Type} {p : UInt16} {xs : List (UInt16 × α)} {y : α} (h : prvLookup p xs = some y) :
    (p, y) ∈ xs := by
  obtain ⟨e, he, rfl⟩ := Option.map_eq_some_iff.mp h
  have hmem := List.mem_of_find?_eq_some he
  have hkey := List.find?_some he
  rw [beq_iff_eq] at hkey
  rw [← hkey]
  exact hmem

theorem prvLookup_eq_none {α : Type} {p : UInt16} {xs : List (UInt16 × α)} :
    prvLookup p xs = none ↔ ∀ y, (p, y) ∉ xs := by
  rw [prvLookup, Option.map_eq_none_iff, List.find?_eq_none]
  constructor
  · intro h y hy
    exact h (p, y) hy (beq_self_eq_true p)
  · intro h e he hkey
    rw [beq_iff_eq] at hkey
    subst hkey
    exact h e.2 he

/-- The keys are distinct, so a lookup finds every entry. -/
theorem prvLookup_of_mem {α : Type} {p : UInt16} {xs : List (UInt16 × α)} {y : α}
    (hkeys : (xs.map Prod.fst).Nodup) (h : (p, y) ∈ xs) : prvLookup p xs = some y := by
  induction xs with
  | nil => simp at h
  | cons e xs ih =>
      rw [List.map_cons, List.nodup_cons] at hkeys
      rcases List.mem_cons.mp h with rfl | h
      · simp [prvLookup]
      · have hne : e.1 ≠ p := by
          rintro rfl
          exact hkeys.1 (List.mem_map.mpr ⟨_, h, rfl⟩)
        simpa [prvLookup, hne] using ih hkeys.2 h

def pxUDPSocketLookup (usKey : UInt16) : M (Option SockId) := return prvLookup usKey (← get).xBoundUDPSocketsList

def loadBaseSocket (s : SockId) : M BaseSocket := do
  match (← get).baseSockets s with
  | some x => return x
  | none => throw .heap

def storeBaseSocket (s : SockId) (x : BaseSocket) : M Unit :=
  modify fun w => w.setBaseSocket s (some x)

/-- A socket that is not bound and has the default timeouts, or null. -/
def freeRtosSocket (bIsIPv6 : Bool) : M (Option SockId) := do
  let n ← nextCall
  let w ← get
  if w.env.freeRtosSocket n then
    set (w.setBaseSocket n (some ⟨false, 0, [], bIsIPv6, portMaxDelay, portMaxDelay, none⟩))
    return some n
  else
    return none

/-- Binds to the port in `sin_port`, or to a private one. It fails for a socket that is bound or a port that is in
use, and may fail in other cases. -/
def freeRtosBind (s : SockId) (sinPort : UInt16) : M Bool := do
  let n ← nextCall
  let x ← loadBaseSocket s
  let w ← get
  let usPort := if sinPort = 0 then w.env.prvGetPrivatePortNumber n else sinPort
  if w.env.freeRtosBind n ∧ x.bBound = false ∧ usPort ≠ 0 ∧ prvLookup usPort w.xBoundUDPSocketsList = none then
    storeBaseSocket s { x with bBound := true, usLocalPort := swap16 usPort }
    modify fun w => w.setBound (w.xBoundUDPSocketsList ++ [(usPort, s)])
    return true
  else
    return false

/-- Releases what is in the waiting list, in order. -/
def vReleaseAll : List BufId → M Unit
  | [] => return ()
  | b :: bs => do
      vReleaseNetworkBufferAndDescriptor b
      vReleaseAll bs

def freeRtosClosesocket (s : SockId) : M Unit := do
  let x ← loadBaseSocket s
  vReleaseAll x.xWaitingPacketsList
  modify fun w => (w.setBound (w.xBoundUDPSocketsList.filter fun e => e.2 != s)).setBaseSocket s none

def freertosSoRcvTimeo : Int := 0
def freertosSoSndTimeo : Int := 1

/-- The options of a base socket. Those that the code does not depend on are only answered. -/
def freeRtosSetsockopt (s : SockId) (lOptionName ulOptionValue : Int) : M Int := do
  let x ← loadBaseSocket s
  if lOptionName = freertosSoRcvTimeo then
    storeBaseSocket s { x with xReceiveBlockTime := ulOptionValue.toNat }
    return 0
  else if lOptionName = freertosSoSndTimeo then
    storeBaseSocket s { x with xSendBlockTime := ulOptionValue.toNat }
    return 0
  else
    return -109

/-! ## Queues of messages -/

/-- A new queue, or null. -/
def xQueueCreate : M (Option QueueHandle) := do
  let n ← nextCall
  let w ← get
  if w.env.xQueueCreate n then
    set (w.addErrQueue n)
    return some n
  else
    return none

def xQueueReset (q : QueueHandle) : M Unit := modify fun w => w.setErrQueue q []

end FreeRtosTsn.Kernel
