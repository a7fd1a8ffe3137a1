import FreeRtosTsn.Lib.Walk
import FreeRtosTsn.Scheduler.Controller

/-!
# The registry of queues

FreeRTOS_TSN_NetworkSchedulerQueue.c and the list of queues of FreeRTOS_TSN_NetworkScheduler.c, as items that are linked by
pointers. Blocks are named by the calls that allocate them, so that no name is used twice.
-/

namespace FreeRtosTsn.Scheduler

open Lib Kernel

/-! ## Memory -/

/-- `NetworkQueue_t`; the filter is null until it is set. -/
structure QueueBlock where
  xQueue : QueueHandle
  uxIPV : Nat
  ePolicy : QueuePolicy
  cName : List UInt8
  fnFilter : Option FilterFunction

def QueueBlock.toQueue (q : QueueBlock) : NetworkQueue where
  xQueue := q.xQueue
  uxIPV := q.uxIPV
  ePolicy := q.ePolicy
  cName := q.cName
  fnFilter := q.fnFilter.getD prvAlwaysTrue

structure NetworkQueueList where
  pxQueue : Addr
  pxNext : Option Addr

structure Registry where
  w : World
  queueAt : Addr → Option QueueBlock
  itemAt : Addr → Option NetworkQueueList
  pxNetworkQueueList : Option Addr
  /-- The items it counts are never freed, so there are fewer than addresses. -/
  uxNumQueues : Nat
  /-- Names that were copied beyond `cName`: the queue and the bytes that were written. The program goes on. -/
  overruns : List (Addr × Nat)

/-- A loop that follows the links in a circle does not stop. -/
inductive RegistryFault
  | code (e : Fault)
  | endless
  deriving DecidableEq, Repr

abbrev R := EStateM RegistryFault Registry

namespace Registry

def boot (env : Env) : Registry where
  w := World.boot env
  queueAt := fun _ => none
  itemAt := fun _ => none
  pxNetworkQueueList := none
  uxNumQueues := 0
  overruns := []

/-- A freed block must not be accessed. -/
def loadQueue (s : Registry) (a : Addr) : Except RegistryFault QueueBlock :=
  match s.queueAt a with
  | some q => .ok q
  | none => .error (.code .heap)

def loadItem (s : Registry) (a : Addr) : Except RegistryFault NetworkQueueList :=
  match s.itemAt a with
  | some pxItem => .ok pxItem
  | none => .error (.code .heap)

def storeQueue (a : Addr) (q : QueueBlock) : R Unit :=
  modify fun s => { s with queueAt := Function.update s.queueAt a (some q) }

def storeItem (a : Addr) (pxItem : NetworkQueueList) : R Unit :=
  modify fun s => { s with itemAt := Function.update s.itemAt a (some pxItem) }

def reads {α : Type} (f : Registry → Except RegistryFault α) : R α := do
  match f (← get) with
  | .ok a => return a
  | .error e => throw e

/-- Code that does not touch the registry. -/
def onWorld {α : Type} (x : M α) : R α := fun s =>
  match x.run s.w with
  | .ok a w => .ok a { s with w := w }
  | .error e w => .error (.code e) { s with w := w }

def pvPortMalloc : R (Option Addr) := do
  let w := (← get).w
  modify fun s => { s with w := w.tick }
  return if w.env.pvPortMalloc w.calls then some w.calls else none

/-- A new queue is empty. -/
def xQueueCreate : R (Option QueueHandle) := do
  let w := (← get).w
  if w.env.xQueueCreate w.calls then
    modify fun s => { s with w := { w.tick with queues := Function.update w.queues w.calls [] } }
    return some w.calls
  else
    modify fun s => { s with w := w.tick }
    return none

def vQueueDelete (xQueue : QueueHandle) : R Unit :=
  modify fun s => { s with w := { s.w with queues := Function.update s.w.queues xQueue [] } }

def vPortFree (a : Addr) : R Unit := modify fun s => { s with queueAt := Function.update s.queueAt a none }

/-! ## Queues -/

/-- The last item from `pxIndex` on. -/
def prvLastItem (s : Registry) : Nat → Addr → Except RegistryFault Addr
  | 0, _ => .error .endless
  | fuel + 1, pxIndex =>
      match s.loadItem pxIndex with
      | .error e => .error e
      | .ok ⟨_, some pxNext⟩ => s.prvLastItem fuel pxNext
      | .ok ⟨_, none⟩ => .ok pxIndex

def vNetworkQueueListAdd (pxItem : Addr) : R Unit := do
  modify fun s => { s with uxNumQueues := s.uxNumQueues + 1 }
  match (← get).pxNetworkQueueList with
  | none => modify fun s => { s with pxNetworkQueueList := some pxItem }
  | some pxIndex =>
      let pxLast ← reads fun s => s.prvLastItem s.w.calls pxIndex
      let item ← reads fun s => s.loadItem pxLast
      storeItem pxLast { item with pxNext := some pxItem }

/-- Null if there is no memory for the queue. -/
def pxNetworkQueueMalloc : R (Option Addr) := do
  match ← pvPortMalloc with
  | none => return none
  | some pxQueue =>
      match ← xQueueCreate with
      | none => throw (.code .assert)
      | some xQueue =>
          storeQueue pxQueue ⟨xQueue, 0, .eSendRecv, [], none⟩
          match ← pvPortMalloc with
          | none => throw (.code .null)
          | some pxNode =>
              storeItem pxNode ⟨pxQueue, none⟩
              vNetworkQueueListAdd pxNode
              return some pxQueue

/-- A string without its terminator. -/
structure CString where
  bytes : List UInt8
  noNul : 0 ∉ bytes

/-- The arguments of `pxNetworkQueueCreate`. -/
structure NewQueue where
  ePolicy : QueuePolicy
  uxIPV : Nat
  cName : Option CString
  fnFilter : Option FilterFunction

/-- A null pointer stands for the empty name. -/
def NewQueue.given (x : NewQueue) : List UInt8 := (x.cName.map CString.bytes).getD []

/-- What is written to the block of a queue. -/
def NewQueue.block (x : NewQueue) (xQueue : QueueHandle) : QueueBlock where
  xQueue := xQueue
  uxIPV := x.uxIPV
  ePolicy := x.ePolicy
  cName := x.given
  fnFilter := some (x.fnFilter.getD prvAlwaysTrue)

/-- Copies a name and its terminator to `cName`. -/
def strcpy (cfg : Config) (pxQueue : Addr) (bytes : List UInt8) : R Unit := do
  let q ← reads fun s => s.loadQueue pxQueue
  storeQueue pxQueue { q with cName := bytes }
  unless bytes.length + 1 ≤ cfg.tsnconfigMaxQueueNameLen do
    modify fun s => { s with overruns := s.overruns ++ [(pxQueue, bytes.length + 1)] }

def pxNetworkQueueCreate (cfg : Config) (x : NewQueue) : R Addr := do
  match ← pxNetworkQueueMalloc with
  | none => throw (.code .null)
  | some pxQueue =>
      strcpy cfg pxQueue x.given
      let q ← reads fun s => s.loadQueue pxQueue
      storeQueue pxQueue
        { q with fnFilter := some (x.fnFilter.getD prvAlwaysTrue), ePolicy := x.ePolicy, uxIPV := x.uxIPV }
      return pxQueue

def vNetworkQueueFree (pxQueue : Addr) : R Unit := do
  let q ← reads fun s => s.loadQueue pxQueue
  vQueueDelete q.xQueue
  vPortFree pxQueue

/-! ## Loops over the list -/

def prvEachQueue {β : Type} (body : Registry → Addr → β → Except RegistryFault (ForInStep β)) (b : β) : R β :=
  reads fun s => chase (fun a => (s.loadItem a).map fun item => (item.pxQueue, item.pxNext)) .endless (body s) s.w.calls
    s.pxNetworkQueueList b

/-- The filter is called through its pointer. -/
def prvFilter (s : Registry) (pxItem : NetworkQueueItem) (q : QueueBlock) : Except RegistryFault Bool :=
  match q.fnFilter with
  | some fnFilter => .ok (fnFilter (bufferOf s.w pxItem.pxBuf))
  | none => .error (.code .null)

/-- The better one of the best match so far and the next queue. -/
def prvChoose (pxItem : NetworkQueueItem) (s : Registry) (pxQueue : Addr) (pxChosenQueue : Option Addr) :
    Except RegistryFault (ForInStep (Option Addr)) := do
  let q ← s.loadQueue pxQueue
  if (← s.prvFilter pxItem q) && prvMatchQueuePolicy pxItem q.toQueue then
    match pxChosenQueue with
    | some c =>
        if q.uxIPV ≤ (← s.loadQueue c).uxIPV then
          return .yield pxChosenQueue
        else
          return .yield (some pxQueue)
    | none => return .yield (some pxQueue)
  else
    return .yield pxChosenQueue

def xNetworkQueuePush (cfg : Config) (pxQueue : Addr) (pxItem : NetworkQueueItem) (uxTimeout : Nat) : R Bool := do
  let q ← reads fun s => s.loadQueue pxQueue
  onWorld (exec cfg (Scheduler.xNetworkQueuePush cfg q.toQueue pxItem uxTimeout))

def xNetworkQueueInsertPacketByFilter (cfg : Config) (pxItem : NetworkQueueItem) (uxTimeout : Nat) : R Bool := do
  match ← prvEachQueue (prvChoose pxItem) none with
  | some pxChosenQueue => xNetworkQueuePush cfg pxChosenQueue pxItem uxTimeout
  | none => return false

def prvFind (cfg : Config) (pcName : List UInt8) (pxItem : NetworkQueueItem) (s : Registry) (pxQueue : Addr)
    (_ : Option Addr) : Except RegistryFault (ForInStep (Option Addr)) := do
  let q ← s.loadQueue pxQueue
  if prvMatchQueuePolicy pxItem q.toQueue && prvSameName cfg pcName q.cName then
    return .done (some pxQueue)
  else
    return .yield none

def pxNetworkQueueFindByName (cfg : Config) (pcName : List UInt8) (pxItem : NetworkQueueItem) : R (Option Addr) :=
  prvEachQueue (prvFind cfg pcName pxItem) none

def xNetworkQueueInsertPacketByName (cfg : Config) (pxItem : NetworkQueueItem) (pcQueueName : List UInt8)
    (uxTimeout : Nat) : R Bool := do
  match ← pxNetworkQueueFindByName cfg pcQueueName pxItem with
  | some pxQueue => xNetworkQueuePush cfg pxQueue pxItem uxTimeout
  | none => return false

def prvPriority (s : Registry) (pxQueue : Addr) (uxPriority : Nat) : Except RegistryFault (ForInStep Nat) := do
  let q ← s.loadQueue pxQueue
  if (s.w.queues q.xQueue).isEmpty then
    return .yield uxPriority
  else
    return .yield (if q.uxIPV > uxPriority then q.uxIPV else uxPriority)

def vTSNControllerComputePriority (cfg : Config) : R Unit := do
  let uxPriority ← prvEachQueue prvPriority (controllerTsnTaskBasePrio cfg)
  onWorld (exec cfg (call (.vTaskPrioritySet uxPriority)))

/-! ## Sequences of calls -/

inductive RegistryCall
  | create (x : NewQueue)
  | free (pxQueue : Addr)

/-- The calls that were made so far, and the queues that were created and not freed. Only these are freed. -/
inductive RegistryRun (cfg : Config) : List RegistryCall → List Addr → Registry → Prop
  | boot (env : Env) : RegistryRun cfg [] [] (boot env)
  /-- Anything that is done to the rest of the state. -/
  | other {calls : List RegistryCall} {live : List Addr} {s : Registry} {w : World} : RegistryRun cfg calls live s →
      s.w.calls ≤ w.calls → RegistryRun cfg calls live { s with w := w }
  | create {calls : List RegistryCall} {live : List Addr} {s s' : Registry} {x : NewQueue} {a : Addr} :
      RegistryRun cfg calls live s → (pxNetworkQueueCreate cfg x).run s = .ok a s' →
      RegistryRun cfg (calls ++ [.create x]) (live ++ [a]) s'
  | free {calls : List RegistryCall} {live : List Addr} {s s' : Registry} {a : Addr} : RegistryRun cfg calls live s →
      a ∈ live → (vNetworkQueueFree a).run s = .ok () s' → RegistryRun cfg (calls ++ [.free a]) (live.erase a) s'

def next (s : Registry) (a : Addr) : Option Addr := (s.itemAt a).bind NetworkQueueList.pxNext

/-- The queue of an item. -/
def queueOf (s : Registry) (a : Addr) : Option Addr := (s.itemAt a).map NetworkQueueList.pxQueue

/-- What loops over the list of queues. -/
inductive Traversal
  | xNetworkQueueInsertPacketByFilter (pxItem : NetworkQueueItem) (uxTimeout : Nat)
  | pxNetworkQueueFindByName (pcName : CString) (pxItem : NetworkQueueItem)
  | vTSNControllerComputePriority

def Traversal.run (cfg : Config) : Traversal → R Unit
  | .xNetworkQueueInsertPacketByFilter pxItem uxTimeout => do
      let _ ← Registry.xNetworkQueueInsertPacketByFilter cfg pxItem uxTimeout
  | .pxNetworkQueueFindByName pcName pxItem => do
      let _ ← Registry.pxNetworkQueueFindByName cfg pcName.bytes pxItem
  | .vTSNControllerComputePriority => Registry.vTSNControllerComputePriority cfg

/-- The list holds the live queues, and what loops over it ends and touches no other ones. -/
structure RegistryOk (cfg : Config) (live : List Addr) (s : Registry) : Prop where
  chain : ∃ items, Walk s.next s.pxNetworkQueueList items ∧ items.map s.queueOf = live.map some ∧
    s.uxNumQueues = items.length
  once : live.Nodup
  touches : ∀ (t : Traversal) e s', (t.run cfg).run s = .error e s' → e ≠ .code .heap ∧ e ≠ .endless

/-! ## Names -/

/-- The first queue that was created whose policy admits the item and that was given the name. -/
def earliest (xs : List NewQueue) (live : List Addr) (pcName : CString) (pxItem : NetworkQueueItem) : Option Addr :=
  ((live.zip xs).find? fun (_, x) =>
    prvMatchQueuePolicy pxItem (x.block 0).toQueue && x.given == pcName.bytes).map Prod.fst

def contents (s : Registry) (a : Addr) : Option (List NetworkQueueItem) :=
  (s.queueAt a).map fun q => s.w.queues q.xQueue

def HasRoom (cfg : Config) (s : Registry) (a : Addr) : Prop :=
  ∃ xs, s.contents a = some xs ∧ xs.length < cfg.ipconfigEventQueueLength

/-- The item is at the end of the queue `a`, and nothing else was put anywhere. -/
structure InsertsInto (live : List Addr) (a : Addr) (pxItem : NetworkQueueItem) (s s' : Registry) : Prop where
  registry : s' = { s with w := s'.w }
  appended : s'.contents a = (s.contents a).map (· ++ [pxItem])
  others : ∀ b ∈ live, b ≠ a → s'.contents b = s.contents b

/-- What a lookup by name finds when `xs` were created as `live`, and what an insertion by name does. -/
structure NamesKept (cfg : Config) (xs : List NewQueue) (live : List Addr) (s : Registry) : Prop where
  inside : s.overruns = []
  finds : ∀ pcName pxItem,
    (pxNetworkQueueFindByName cfg pcName.bytes pxItem).run s = .ok (earliest xs live pcName pxItem) s
  inserts : ∀ pcName pxItem uxTimeout, ∃ r s',
    (xNetworkQueueInsertPacketByName cfg pxItem pcName.bytes uxTimeout).run s = .ok r s' ∧
      (r = true ↔ ∃ a, earliest xs live pcName pxItem = some a ∧ s.HasRoom cfg a) ∧ (r = false → s' = s) ∧
      (r = true → ∃ a, earliest xs live pcName pxItem = some a ∧ InsertsInto live a pxItem s s')
  /-- A further queue is not written through a null pointer. -/
  creates : ∀ x s', (pxNetworkQueueCreate cfg x).run s ≠ .error (.code .null) s'

/-- The name and its terminator fit into `cName`. -/
def NewQueue.Fits (cfg : Config) (x : NewQueue) : Prop := x.given.length < cfg.tsnconfigMaxQueueNameLen

instance (cfg : Config) (x : NewQueue) : Decidable (x.Fits cfg) := inferInstanceAs (Decidable (_ < _))

/-- There is memory for a queue, and for its item if the kernel has a queue for it. -/
def MemoryLeft (s : Registry) : Prop :=
  s.w.env.pvPortMalloc s.w.calls = true ∧
    (s.w.env.xQueueCreate (s.w.calls + 1) = true → s.w.env.pvPortMalloc (s.w.calls + 2) = true)

instance (s : Registry) : Decidable s.MemoryLeft := inferInstanceAs (Decidable (_ ∧ (_ → _)))

end Registry

end FreeRtosTsn.Scheduler
