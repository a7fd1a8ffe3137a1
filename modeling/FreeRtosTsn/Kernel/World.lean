import FreeRtosTsn.Kernel.Basic
import FreeRtosTsn.Lib.Frame
import Mathlib.Tactic.Simps.Basic

/-!
# The state of the node

Everything the code reads and writes: kernel objects, network buffers, the heap, the sockets, and a record of
what was handed to code outside the repository. What that code answers is read from `Env` by the number of the
call, so a statement about every `Env` is about every pattern of its answers.
-/

namespace FreeRtosTsn.Kernel

open Lib

inductive TimebaseState
  | eTimebaseNotInitialised
  | eTimebaseDisabled
  | eTimebaseEnabled
  deriving DecidableEq, Repr

/-- The answers of the code outside the repository to its `n`-th call. -/
structure Env where
  pvPortMalloc : Nat → Bool := fun _ => true
  pxGetNetworkBufferWithDescriptor : Nat → Bool := fun _ => true
  pxResizeNetworkBufferWithDescriptor : Nat → Bool := fun _ => true
  xMacNetworkInterfaceOutput : Nat → Bool := fun _ => true
  xSendEventStructToIPTask : Nat → Bool := fun _ => true
  xProcessReceivedUDPPacket : Nat → Bool := fun _ => true
  freeRtosSocket : Nat → Bool := fun _ => true
  xQueueCreate : Nat → Bool := fun _ => true
  freeRtosBind : Nat → Bool := fun _ => true
  prvGetPrivatePortNumber : Nat → UInt16 := fun _ => 49152
  eARPGetCacheEntry : UInt32 → Option (MACAddress × EndPointId) := fun _ => none
  fnGetTime : Nat → Timespec := fun _ => ⟨0, 0⟩
  /-- Ticks that pass while the call blocks. -/
  uxBlockedTicks : Nat → Nat := fun _ => 0
  /-- Contents of memory that was not written since it was allocated. -/
  junk : Nat → UInt8 := fun _ => 0

structure World where
  env : Env
  /-- Calls made so far; a new block or descriptor is named by the number of the call that made it. -/
  calls : Nat
  -- Kernel objects.
  xTickCount : Nat
  queues : QueueHandle → List NetworkQueueItem
  ulNotifiedValue : Nat
  uxPriority : Nat
  bCallingFromController : Bool
  -- Memory of the scheduler.
  uxNextActivation : CbsId → Nat
  uxNextWakeup : Nat
  pxNetworkQueueList : List NetworkQueue
  -- Network buffers: descriptors, the bytes and the size of their Ethernet buffers.
  bufs : BufId → NetworkBufferDescriptor
  mem : BufId → Mem
  cap : BufId → Nat
  /-- Descriptors released so far, with the `pucEthernetBuffer` they had then. -/
  released : List (BufId × Ptr)
  /-- Accesses beyond the end of an Ethernet buffer: buffer, offset and length. The program goes on. -/
  overruns : List (BufId × Nat × Nat)
  -- The heap.
  heap : Addr → Option Block
  freed : List Addr
  -- Sockets.
  baseSockets : SockId → Option BaseSocket
  xBoundUDPSocketsList : List (UInt16 × SockId)
  xTSNBoundUDPSocketList : List (UInt16 × Addr)
  errQueues : QueueHandle → List Addr
  /-- The error queues that exist. -/
  errQueueHandles : List QueueHandle
  -- Interfaces and the timebase.
  interfaces : IfaceId → NetworkInterfaceConfig
  endPoints : EndPointId → EndPoint
  xTimebaseState : TimebaseState
  bTimebaseHandleSet : Bool
  -- What was handed over.
  ipTaskEvents : List BufId
  udpProcessed : List BufId
  macFrames : List (List UInt8)

/-- The node when it boots: nothing is allocated and no socket is bound. -/
def World.boot (env : Env) : World where
  env := env
  calls := 0
  xTickCount := 0
  queues := fun _ => []
  ulNotifiedValue := 0
  uxPriority := 0
  bCallingFromController := false
  uxNextActivation := fun _ => 0
  uxNextWakeup := 0
  pxNetworkQueueList := []
  bufs := fun b => ⟨.eth b 0, 0, none, none, 0, 0, .ipv4 0⟩
  mem := fun _ => env.junk
  cap := fun _ => 0
  released := []
  overruns := []
  heap := fun _ => none
  freed := []
  baseSockets := fun _ => none
  xBoundUDPSocketsList := []
  xTSNBoundUDPSocketList := []
  errQueues := fun _ => []
  errQueueHandles := []
  interfaces := fun _ => ⟨0, 0, 0⟩
  endPoints := fun _ => ⟨0, Vector.replicate 6 0, 0⟩
  xTimebaseState := .eTimebaseNotInitialised
  bTimebaseHandleSet := false
  ipTaskEvents := []
  udpProcessed := []
  macFrames := []

/-! ## Updates -/

namespace World

/-- Counts a call to code outside the repository. -/
@[simps -fullyApplied] def tick (w : World) : World := { w with calls := w.calls + 1 }

@[simps -fullyApplied] def setBuf (w : World) (b : BufId) (d : NetworkBufferDescriptor) : World :=
  { w with bufs := Function.update w.bufs b d }

@[simps -fullyApplied] def setMem (w : World) (b : BufId) (m : Mem) : World := { w with mem := Function.update w.mem b m }

@[simps -fullyApplied] def setCap (w : World) (b : BufId) (n : Nat) : World := { w with cap := Function.update w.cap b n }

/-- Records an access to an Ethernet buffer if it is beyond its end. -/
@[simps -fullyApplied] def accessed (w : World) (b : BufId) (off n : Nat) : World :=
  { w with overruns := if off + n ≤ w.cap b then w.overruns else w.overruns ++ [(b, off, n)] }

@[simps -fullyApplied] def release (w : World) (b : BufId) : World :=
  { w with released := w.released ++ [(b, (w.bufs b).pucEthernetBuffer)] }

@[simps -fullyApplied] def setBlock (w : World) (a : Addr) (x : Option Block) : World :=
  { w with heap := Function.update w.heap a x }

@[simps -fullyApplied] def free (w : World) (a : Addr) : World :=
  { w with heap := Function.update w.heap a none, freed := w.freed ++ [a] }

@[simps -fullyApplied] def setBaseSocket (w : World) (s : SockId) (x : Option BaseSocket) : World :=
  { w with baseSockets := Function.update w.baseSockets s x }

@[simps -fullyApplied] def setBound (w : World) (xs : List (UInt16 × SockId)) : World := { w with xBoundUDPSocketsList := xs }

@[simps -fullyApplied] def setTsnBound (w : World) (xs : List (UInt16 × Addr)) : World := { w with xTSNBoundUDPSocketList := xs }

@[simps -fullyApplied] def setErrQueue (w : World) (q : QueueHandle) (as : List Addr) : World :=
  { w with errQueues := Function.update w.errQueues q as }

/-- A new queue is empty. -/
@[simps -fullyApplied] def addErrQueue (w : World) (q : QueueHandle) : World :=
  { w with errQueues := Function.update w.errQueues q [], errQueueHandles := w.errQueueHandles ++ [q] }

@[simps -fullyApplied] def emit (w : World) (bs : List UInt8) : World := { w with macFrames := w.macFrames ++ [bs] }

@[simps -fullyApplied] def toIPTask (w : World) (b : BufId) : World := { w with ipTaskEvents := w.ipTaskEvents ++ [b] }

@[simps -fullyApplied] def toUDP (w : World) (b : BufId) : World := { w with udpProcessed := w.udpProcessed ++ [b] }

end World

abbrev M := EStateM Fault World

/-! ## Running -/

section Run

variable {α β : Type}

@[simp] theorem run_map (g : α → β) (x : M α) (w : World) :
    (g <$> x).run w =
      match x.run w with
      | .ok a w' => .ok (g a) w'
      | .error e w' => .error e w' := by
  rw [← bind_pure_comp, EStateM.run_bind]
  cases x.run w <;> rfl

@[simp] theorem run_throw (e : Fault) (w : World) : (throw e : M α).run w = .error e w := rfl

end Run

/-! ## The heap -/

/-- A fresh block holding `b`, or null. -/
def pvPortMalloc (b : Block) : M (Option Addr) := do
  let w ← get
  if w.env.pvPortMalloc w.calls then
    set (w.tick.setBlock w.calls (some b))
    return some w.calls
  else
    set w.tick
    return none

def vPortFree (a : Addr) : M Unit := do
  let w ← get
  match w.heap a with
  | none => throw .heap
  | some _ => set (w.free a)

/-- A pointer that is dereferenced must not be null. -/
def deref {α : Type} : Option α → M α
  | none => throw .null
  | some a => return a

/-- The block at `a`, if it is of the kind that `f` accepts. -/
def loadBlock {α : Type} (f : Block → Option α) (a : Addr) : M α := do
  match ((← get).heap a).bind f with
  | some x => return x
  | none => throw .heap

def storeBlock (a : Addr) (b : Block) : M Unit := modify fun w => w.setBlock a (some b)

def loadMsghdr : Addr → M Msghdr := loadBlock fun b => match b with | .msghdr m => some m | _ => none

def storeMsghdr (a : Addr) (m : Msghdr) : M Unit := storeBlock a (.msghdr m)

def loadIovec : Addr → M (List Iovec) := loadBlock fun b => match b with | .iovec v => some v | _ => none

def storeIovec (a : Addr) (v : List Iovec) : M Unit := storeBlock a (.iovec v)

def loadSockaddr : Addr → M Sockaddr := loadBlock fun b => match b with | .sockaddr x => some x | _ => none

def loadControl : Addr → M (List UInt8) := loadBlock fun b => match b with | .control bs => some bs | _ => none

def loadTsnSocket : Addr → M TSNSocket := loadBlock fun b => match b with | .tsnSocket s => some s | _ => none

/-! ## Network buffers -/

def loadBuf (b : BufId) : M NetworkBufferDescriptor := return (← get).bufs b

def modifyBuf (b : BufId) (f : NetworkBufferDescriptor → NetworkBufferDescriptor) : M Unit :=
  modify fun w => w.setBuf b (f (w.bufs b))

/-- What the release does with the Ethernet buffer is decided by the pointer it finds. -/
def vReleaseNetworkBufferAndDescriptor (b : BufId) : M Unit := modify fun w => w.release b

def Ptr.add : Ptr → Nat → Ptr
  | .eth b off, n => .eth b (off + n)
  | .blk a, _ => .blk a

/-- The Ethernet buffer that a byte pointer points into. -/
def ethOf : Ptr → M (BufId × Nat)
  | .eth b off => return (b, off)
  | .blk _ => throw .heap

def checkAccess (b : BufId) (off n : Nat) : M Unit := modify fun w => w.accessed b off n

def readBytes (p : Ptr) (n : Nat) : M (List UInt8) := do
  let (b, off) ← ethOf p
  checkAccess b off n
  return ((← get).mem b).read off n

def load8 (p : Ptr) (off : Nat) : M UInt8 := do
  let (b, o) ← ethOf p
  checkAccess b (o + off) 1
  return (← get).mem b (o + off)

def load16 (p : Ptr) (off : Nat) : M UInt16 := do
  let (b, o) ← ethOf p
  checkAccess b (o + off) 2
  return ((← get).mem b).load16 (o + off)

def load32 (p : Ptr) (off : Nat) : M UInt32 := do
  let (b, o) ← ethOf p
  checkAccess b (o + off) 4
  return ((← get).mem b).load32 (o + off)

def writeBytes (p : Ptr) (off : Nat) (bs : List UInt8) : M Unit := do
  let (b, o) ← ethOf p
  checkAccess b (o + off) bs.length
  modify fun w => w.setMem b ((w.mem b).write (o + off) bs)

/-- `memmove` within one Ethernet buffer. -/
def moveBytes (p : Ptr) (dst src n : Nat) : M Unit := do
  let (b, o) ← ethOf p
  checkAccess b (o + src) n
  checkAccess b (o + dst) n
  modify fun w => w.setMem b ((w.mem b).move (o + dst) (o + src) n)

/-! ## Running the operations -/

section Run

variable {w : World}

theorem run_pvPortMalloc_ok (h : w.env.pvPortMalloc w.calls = true) (b : Block) :
    (pvPortMalloc b).run w = .ok (some w.calls) (w.tick.setBlock w.calls (some b)) := by
  simp [pvPortMalloc, h]

theorem run_pvPortMalloc_null (h : w.env.pvPortMalloc w.calls = false) (b : Block) :
    (pvPortMalloc b).run w = .ok none w.tick := by
  simp [pvPortMalloc, h]

theorem run_vPortFree {a : Addr} {b : Block} (h : w.heap a = some b) : (vPortFree a).run w = .ok () (w.free a) := by
  simp [vPortFree, h]

theorem run_loadMsghdr {a : Addr} {m : Msghdr} (h : w.heap a = some (.msghdr m)) : (loadMsghdr a).run w = .ok m w := by
  simp [loadMsghdr, loadBlock, h]

theorem run_loadIovec {a : Addr} {v : List Iovec} (h : w.heap a = some (.iovec v)) : (loadIovec a).run w = .ok v w := by
  simp [loadIovec, loadBlock, h]

theorem run_loadSockaddr {a : Addr} {x : Sockaddr} (h : w.heap a = some (.sockaddr x)) :
    (loadSockaddr a).run w = .ok x w := by
  simp [loadSockaddr, loadBlock, h]

theorem run_loadControl {a : Addr} {bs : List UInt8} (h : w.heap a = some (.control bs)) :
    (loadControl a).run w = .ok bs w := by
  simp [loadControl, loadBlock, h]

theorem run_loadTsnSocket {a : Addr} {s : TSNSocket} (h : w.heap a = some (.tsnSocket s)) :
    (loadTsnSocket a).run w = .ok s w := by
  simp [loadTsnSocket, loadBlock, h]

variable (w)

@[simp] theorem run_deref_some {α : Type} (a : α) : (deref (some a)).run w = .ok a w := rfl

@[simp] theorem run_deref_none {α : Type} : (deref (none : Option α)).run w = .error .null w := rfl

@[simp] theorem run_storeMsghdr (a : Addr) (m : Msghdr) :
    (storeMsghdr a m).run w = .ok () (w.setBlock a (some (.msghdr m))) := rfl

@[simp] theorem run_storeIovec (a : Addr) (v : List Iovec) :
    (storeIovec a v).run w = .ok () (w.setBlock a (some (.iovec v))) := rfl

@[simp] theorem run_loadBuf (b : BufId) : (loadBuf b).run w = .ok (w.bufs b) w := rfl

@[simp] theorem run_modifyBuf (b : BufId) (f : NetworkBufferDescriptor → NetworkBufferDescriptor) :
    (modifyBuf b f).run w = .ok () (w.setBuf b (f (w.bufs b))) := rfl

@[simp] theorem run_vReleaseNetworkBufferAndDescriptor (b : BufId) :
    (vReleaseNetworkBufferAndDescriptor b).run w = .ok () (w.release b) := rfl

@[simp] theorem run_readBytes (b : BufId) (o n : Nat) :
    (readBytes (.eth b o) n).run w = .ok ((w.mem b).read o n) (w.accessed b o n) := rfl

@[simp] theorem run_load8 (b : BufId) (o off : Nat) :
    (load8 (.eth b o) off).run w = .ok (w.mem b (o + off)) (w.accessed b (o + off) 1) := rfl

@[simp] theorem run_load16 (b : BufId) (o off : Nat) :
    (load16 (.eth b o) off).run w = .ok ((w.mem b).load16 (o + off)) (w.accessed b (o + off) 2) := rfl

@[simp] theorem run_load32 (b : BufId) (o off : Nat) :
    (load32 (.eth b o) off).run w = .ok ((w.mem b).load32 (o + off)) (w.accessed b (o + off) 4) := rfl

@[simp] theorem run_writeBytes (b : BufId) (o off : Nat) (bs : List UInt8) :
    (writeBytes (.eth b o) off bs).run w =
      .ok () ((w.accessed b (o + off) bs.length).setMem b ((w.mem b).write (o + off) bs)) := rfl

@[simp] theorem run_moveBytes (b : BufId) (o dst src n : Nat) :
    (moveBytes (.eth b o) dst src n).run w =
      .ok () (((w.accessed b (o + src) n).accessed b (o + dst) n).setMem b ((w.mem b).move (o + dst) (o + src) n)) :=
  rfl

end Run

end FreeRtosTsn.Kernel
