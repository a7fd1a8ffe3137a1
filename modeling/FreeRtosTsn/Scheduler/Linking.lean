import FreeRtosTsn.Scheduler.Tree

/-!
# Linking queues and children

FreeRTOS_TSN_NetworkSchedulerBlock.c on the block of a single node, whose size is computed with 32 bits.
-/

namespace FreeRtosTsn.Scheduler

open Kernel

def sizeofPointer : Nat := 4

/-- `ucNumChildren` with its padding, `pvScheduler` and `pxQueue`. -/
def sizeofNetworkNode : Nat := 12

/-- A `NetworkNode_t` in a block of `uxSpace` bytes, with as many slots as there is room for. Pointers to queues and
nodes are of types `Q` and `N`. -/
structure NodeBlock (Q N : Type) (uxSpace : Nat) where
  ucNumChildren : UInt8
  pxQueue : Option Q
  pxNext : Vector (Option N) ((uxSpace - sizeofNetworkNode) / sizeofPointer)

abbrev NodeM (Q N : Type) (uxSpace : Nat) := EStateM Fault (NodeBlock Q N uxSpace)

namespace NodeBlock

variable {Q N : Type} {uxSpace : Nat}

def uxSpaceRequired (uxNumChildren : Nat) : Nat := wrap32 (sizeofNetworkNode + wrap32 (uxNumChildren * sizeofPointer))

/-- `pvPortMalloc` tells which sizes it has memory for. -/
def pxNetworkNodeCreate (pvPortMalloc : Nat → Bool) (uxNumChildren : Nat) :
    Except Fault (Option (NodeBlock Q N (uxSpaceRequired uxNumChildren))) := do
  if pvPortMalloc (uxSpaceRequired uxNumChildren) then
    -- `ucNumChildren` is the first byte of the block.
    if uxSpaceRequired uxNumChildren = 0 then
      throw .heap
    return some ⟨UInt8.ofNat uxNumChildren, none, Vector.replicate _ none⟩
  else
    return none

/-- `pxQueue` is the last field before the slots. -/
def accessQueue : NodeM Q N uxSpace Unit := do
  if uxSpace < sizeofNetworkNode then
    throw .heap

def xNetworkSchedulerLinkQueue (pxQueue : Q) : NodeM Q N uxSpace Bool := do
  accessQueue
  modify fun node => { node with pxQueue := some pxQueue }
  return true

def xNetworkSchedulerLinkChild (pxChild : N) (uxPosition : Nat) : NodeM Q N uxSpace Bool := do
  let node ← get
  if uxPosition < node.ucNumChildren.toNat then
    accessQueue
    if node.pxQueue.isNone then
      if h : uxPosition < (uxSpace - sizeofNetworkNode) / sizeofPointer then
        set { node with pxNext := node.pxNext.set uxPosition (some pxChild) h }
        return true
      else
        throw .heap
  return false

/-! ## Sequences of calls -/

/-- A call with a node that is not null. -/
inductive LinkCall (Q N : Type)
  | queue (pxQueue : Q)
  | child (pxChild : N) (uxPosition : Nat)

def LinkCall.run : LinkCall Q N → NodeM Q N uxSpace Bool
  | .queue pxQueue => xNetworkSchedulerLinkQueue pxQueue
  | .child pxChild uxPosition => xNetworkSchedulerLinkChild pxChild uxPosition

def ChildLinked (node : NodeBlock Q N uxSpace) : Prop := node.pxNext.toList.any Option.isSome

instance (node : NodeBlock Q N uxSpace) : Decidable node.ChildLinked := inferInstanceAs (Decidable (_ = true))

/-- A queue is linked, or children are. -/
def Exclusive (node : NodeBlock Q N uxSpace) : Prop := ¬(node.pxQueue.isSome ∧ node.ChildLinked)

/-- A child is linked to a slot of its own unless a queue is linked or there is no such child. -/
def ChildLaw (n : Nat) (pxChild : N) (uxPosition : Nat) (node : NodeBlock Q N uxSpace) (r : Bool)
    (node' : NodeBlock Q N uxSpace) : Prop :=
  (r = true ↔ uxPosition < n ∧ node.pxQueue = none) ∧
    (r = true → ∃ h, node' = { node with pxNext := node.pxNext.set uxPosition (some pxChild) h })

/-- What a call on a node for `n` children may do. -/
structure LinkCall.Lawful (n : Nat) (call : LinkCall Q N) (node : NodeBlock Q N uxSpace) (r : Bool)
    (node' : NodeBlock Q N uxSpace) : Prop where
  child : ∀ pxChild uxPosition, call = .child pxChild uxPosition → ChildLaw n pxChild uxPosition node r node'
  failed : r = false → node' = node
  exclusive : node'.Exclusive

/-- Each call of the sequence returns and is lawful. -/
def CallsLawful (n : Nat) : List (LinkCall Q N) → NodeBlock Q N uxSpace → Prop
  | [], _ => True
  | call :: calls, node => ∃ r node', call.run.run node = .ok r node' ∧ call.Lawful n node r node' ∧
      CallsLawful n calls node'

/-- Whatever is linked, in the node as it was created and after each call. -/
def LinkInvariant (n : Nat) (calls : List (LinkCall Q N)) (node : NodeBlock Q N uxSpace) : Prop :=
  node.Exclusive ∧ CallsLawful n calls node

/-- A queue is not linked over children, and as long as no queue is linked, no child is linked to one of the positions
that the 8 bits of `ucNumChildren` leave out. In a block that is too small for a node, `pxQueue` is not reached. -/
def LinkCall.Fits (n : Nat) (node : NodeBlock Q N uxSpace) : LinkCall Q N → Prop
  | .queue _ => sizeofNetworkNode ≤ uxSpace ∧ ¬node.ChildLinked
  | .child _ uxPosition => (uxPosition < n % 256 → sizeofNetworkNode ≤ uxSpace) ∧
      (n % 256 ≤ uxPosition → uxPosition < n → node.pxQueue.isSome)

instance (n : Nat) (node : NodeBlock Q N uxSpace) (call : LinkCall Q N) : Decidable (call.Fits n node) :=
  match call with
  | .queue _ => inferInstanceAs (Decidable (_ ∧ _))
  | .child _ _ => inferInstanceAs (Decidable ((_ → _) ∧ (_ → _ → _)))

def CallsFit (n : Nat) : List (LinkCall Q N) → NodeBlock Q N uxSpace → Prop
  | [], _ => True
  | call :: calls, node => call.Fits n node ∧ ∀ r node', call.run.run node = .ok r node' → CallsFit n calls node'

/-! ## The node in the tree -/

def toNode (pvScheduler : SchedulerGeneric) (node : NodeBlock NetworkQueue NetworkNode uxSpace) : NetworkNode :=
  .mk node.ucNumChildren.toNat pvScheduler node.pxQueue (node.pxNext.toList.map (·.getD .null))

end NodeBlock

end FreeRtosTsn.Scheduler
