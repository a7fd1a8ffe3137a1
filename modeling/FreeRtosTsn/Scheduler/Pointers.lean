import FreeRtosTsn.Scheduler.Linking
import FreeRtosTsn.Scheduler.Round
import FreeRtosTsn.Lib.Forest
import Mathlib.Data.Set.Card

/-!
# Nodes and schedulers in memory

The functions that build the tree of the schedulers, on nodes that point to each other, and the traversal that follows
the pointers. The other modules have the tree that the pointers make up.
-/

namespace FreeRtosTsn.Scheduler.Pointers

open Lib Kernel

/-! ## Memory -/

structure NodeCell where
  uxSpace : Nat
  block : NodeBlock NetworkQueue Addr uxSpace
  pvScheduler : Option Addr

/-- `prvCBSReady` comes with the fields of `struct xSCHEDULER_CBS` that it reads. -/
inductive ReadyFunction
  | prvAlwaysReady
  | prvCBSReady (uxBandwidth uxMaxCredit : Nat)

structure SchedulerCell where
  pxOwner : Addr
  fnSelect : SelectQueueFunction
  fnReady : ReadyFunction

structure Nodes where
  nodes : Addr → Option NodeCell
  schedulers : Addr → Option SchedulerCell
  pxNetworkQueueRoot : Option Addr

namespace Nodes

def setNode (h : Nodes) (pxNode : Addr) (node : Option NodeCell) : Nodes :=
  { h with nodes := Function.update h.nodes pxNode node }

def setScheduler (h : Nodes) (pxSched : Addr) (sched : Option SchedulerCell) : Nodes :=
  { h with schedulers := Function.update h.schedulers pxSched sched }

/-- The slots of a node that has not been released. -/
def slots (h : Nodes) (pxNode : Addr) : List (Option Addr) :=
  match h.nodes pxNode with
  | none => []
  | some node => node.block.pxNext.toList

end Nodes

structure Setup where
  h : Nodes
  w : World

abbrev H := EStateM Fault Setup

def nonNull {α : Type} : Option α → H α
  | none => throw .null
  | some a => return a

def loadNode (pxNode : Addr) : H NodeCell := do
  match (← get).h.nodes pxNode with
  | none => throw .heap
  | some node => return node

def loadScheduler (pxSched : Addr) : H SchedulerCell := do
  match (← get).h.schedulers pxSched with
  | none => throw .heap
  | some sched => return sched

def storeNode (pxNode : Addr) (node : Option NodeCell) : H Unit :=
  modify fun s => { s with h := s.h.setNode pxNode node }

def storeScheduler (pxSched : Addr) (sched : Option SchedulerCell) : H Unit :=
  modify fun s => { s with h := s.h.setScheduler pxSched sched }

def pvPortMalloc : H (Option Addr) := do
  let s ← get
  set { s with w := s.w.tick }
  return if s.w.env.pvPortMalloc s.w.calls then some s.w.calls else none

/-! ## Nodes -/

def pxNetworkNodeCreate (uxNumChildren : Nat) : H (Option Addr) := do
  let pxNode ← pvPortMalloc
  match NodeBlock.pxNetworkNodeCreate (fun _ => pxNode.isSome) uxNumChildren, pxNode with
  | .error e, _ => throw e
  | .ok (some block), some a =>
      storeNode a (some ⟨_, block, none⟩)
      return some a
  | .ok _, _ => return none

/-- The scheduler of the node stays. -/
def vNetworkNodeRelease : Option Addr → H Unit
  | none => return
  | some pxNode => do
      let _ ← loadNode pxNode
      storeNode pxNode none

/-- Runs code on the block of a node. -/
def onBlock (pxNode : Addr) (f : (uxSpace : Nat) → NodeM NetworkQueue Addr uxSpace Bool) : H Bool := do
  let node ← loadNode pxNode
  match (f node.uxSpace).run node.block with
  | .error e _ => throw e
  | .ok r block =>
      storeNode pxNode (some { node with block := block })
      return r

/-- With a null queue. -/
def prvUnlinkQueue (uxSpace : Nat) : NodeM NetworkQueue Addr uxSpace Bool := do
  NodeBlock.accessQueue
  modify fun node => { node with pxQueue := none }
  return true

/-- With a null child. -/
def prvUnlinkChild (uxPosition uxSpace : Nat) : NodeM NetworkQueue Addr uxSpace Bool := do
  let node ← get
  if uxPosition < node.ucNumChildren.toNat then
    NodeBlock.accessQueue
    if node.pxQueue.isNone then
      if h : uxPosition < (uxSpace - sizeofNetworkNode) / sizeofPointer then
        set { node with pxNext := node.pxNext.set uxPosition none h }
        return true
      else
        throw .heap
  return false

def xNetworkSchedulerLinkQueue (pxNode : Option Addr) (pxQueue : Option NetworkQueue) : H Bool :=
  match pxNode, pxQueue with
  | none, _ => return false
  | some pxNode, none => onBlock pxNode prvUnlinkQueue
  | some pxNode, some pxQueue => onBlock pxNode fun _ => NodeBlock.xNetworkSchedulerLinkQueue pxQueue

def xNetworkSchedulerLinkChild (pxNode pxChild : Option Addr) (uxPosition : Nat) : H Bool :=
  match pxNode, pxChild with
  | none, _ => return false
  | some pxNode, none => onBlock pxNode (prvUnlinkChild uxPosition)
  | some pxNode, some pxChild => onBlock pxNode fun _ => NodeBlock.xNetworkSchedulerLinkChild pxChild uxPosition

def xNetworkQueueAssignRoot (pxNode : Option Addr) : H Bool := do
  let s ← get
  if s.h.pxNetworkQueueRoot.isNone then
    set { s with h := { s.h with pxNetworkQueueRoot := pxNode } }
    return true
  else
    return false

/-! ## Schedulers -/

/-- `usSize` with its padding, `pxOwner`, `fnSelect` and `fnReady`. -/
def sizeofSchedulerGeneric : Nat := 16

def sizeofSchedulerCBS : Nat := 28

/-- Neither the memory that was asked for nor the node is checked. -/
def pvNetworkSchedulerGenericCreate (pxNode : Option Addr) (usSize : Nat) : H (Option Addr) := do
  if sizeofSchedulerGeneric ≤ usSize then
    let pxSched ← nonNull (← pvPortMalloc)
    let pxNode ← nonNull pxNode
    let node ← loadNode pxNode
    storeScheduler pxSched (some ⟨pxNode, .prvSelectFirst, .prvAlwaysReady⟩)
    storeNode pxNode (some { node with pvScheduler := some pxSched })
    return some pxSched
  else
    return none

def vNetworkSchedulerGenericRelease (pvSched : Option Addr) : H Unit := do
  let pvSched ← nonNull pvSched
  let sched ← loadScheduler pvSched
  let node ← loadNode sched.pxOwner
  storeNode sched.pxOwner (some { node with pvScheduler := none })
  storeScheduler pvSched none

def pxNetworkNodeCreatePrio (uxNumChildren : Nat) : H (Option Addr) := do
  let pxNode ← pxNetworkNodeCreate uxNumChildren
  let pxSched ← nonNull (← pvNetworkSchedulerGenericCreate pxNode sizeofSchedulerGeneric)
  let sched ← loadScheduler pxSched
  storeScheduler pxSched (some { sched with fnSelect := .prvPrioritySelect })
  return pxNode

def pxNetworkNodeCreateFIFO : H (Option Addr) := do
  let pxNode ← pxNetworkNodeCreate 1
  let _ ← pvNetworkSchedulerGenericCreate pxNode sizeofSchedulerGeneric
  return pxNode

def pxNetworkNodeCreateCBS (uxBandwidth uxMaxCredit : Nat) : H (Option Addr) := do
  let pxNode ← pxNetworkNodeCreate 1
  let pxSched ← nonNull (← pvNetworkSchedulerGenericCreate pxNode sizeofSchedulerCBS)
  let sched ← loadScheduler pxSched
  storeScheduler pxSched (some { sched with fnReady := .prvCBSReady uxBandwidth uxMaxCredit })
  modify fun s => { s with w := { s.w with
    uxNextActivation := Function.update s.w.uxNextActivation pxSched (wrap32 s.w.xTickCount) } }
  return pxNode

/-! ## The traversal -/

/-- The address of a scheduler is the name of its `uxNextActivation`. -/
def SchedulerCell.generic (sched : SchedulerCell) (pxSched : Addr) : SchedulerGeneric where
  fnSelect := sched.fnSelect
  fnReady := match sched.fnReady with
    | .prvAlwaysReady => .prvAlwaysReady
    | .prvCBSReady uxBandwidth uxMaxCredit => .prvCBSReady ⟨pxSched, uxBandwidth, uxMaxCredit⟩

/-- A node with its scheduler. A block that is too small for a node is not looked into. -/
def Nodes.load (h : Nodes) : Option Addr → Except Fault (NodeCell × SchedulerGeneric)
  | none => .error .null
  | some pxNode =>
      match h.nodes pxNode with
      | none => .error .heap
      | some node =>
          if node.uxSpace < sizeofNetworkNode then .error .heap
          else
            match node.pvScheduler with
            | none => .error .null
            | some pxSched =>
                match h.schedulers pxSched with
                | none => .error .heap
                | some sched => .ok (node, sched.generic pxSched)

section Traversal

variable (callChild : Option Addr → P (Option NetworkQueue))

def prvSelectFirst : List (Option Addr) → P (Option NetworkQueue)
  | [] => fault .heap
  | pxChild :: _ => callChild pxChild

def prvPrioritySelect : Nat → List (Option Addr) → P (Option NetworkQueue)
  | 0, _ => return none
  | _ + 1, [] => fault .heap
  | n + 1, pxChild :: pxNext => do
      match ← callChild pxChild with
      | some q => return some q
      | none => prvPrioritySelect n pxNext

end Traversal

/-- `uxStack` calls fit on the stack of the task. -/
def pxNetworkSchedulerCall (cfg : Config) (h : Nodes) : Nat → Option Addr → P (Option NetworkQueue)
  | 0, _ => fault .heap
  | uxStack + 1, pxNode =>
      match h.load pxNode with
      | .error e => fault e
      | .ok (node, pvScheduler) => do
          if ← netschedCallReadyFromNode cfg pvScheduler node.block.pxQueue then
            match node.block.pxQueue with
            | some q => prvCallTerminal q
            | none =>
                match pvScheduler.fnSelect with
                | .prvSelectFirst => prvSelectFirst (pxNetworkSchedulerCall cfg h uxStack) node.block.pxNext.toList
                | .prvPrioritySelect =>
                    prvPrioritySelect (pxNetworkSchedulerCall cfg h uxStack) node.block.ucNumChildren.toNat
                      node.block.pxNext.toList
          else
            return none

def xNetworkQueueSchedule (cfg : Config) (h : Nodes) (uxStack : Nat) : P (Option NetworkQueue) :=
  match h.pxNetworkQueueRoot with
  | none => return none
  | pxNetworkQueueRoot => pxNetworkSchedulerCall cfg h uxStack pxNetworkQueueRoot

/-! ## Runs of the application -/

inductive NodeCall
  | pxNetworkNodeCreate (uxNumChildren : Nat)
  | vNetworkNodeRelease (pxNode : Option Addr)
  | pvNetworkSchedulerGenericCreate (pxNode : Option Addr) (usSize : Nat)
  | vNetworkSchedulerGenericRelease (pvSched : Option Addr)
  | pxNetworkNodeCreatePrio (uxNumChildren : Nat)
  | pxNetworkNodeCreateFIFO
  | pxNetworkNodeCreateCBS (uxBandwidth uxMaxCredit : Nat)
  | xNetworkSchedulerLinkQueue (pxNode : Option Addr) (pxQueue : Option NetworkQueue)
  | xNetworkSchedulerLinkChild (pxNode pxChild : Option Addr) (uxPosition : Nat)
  | xNetworkQueueAssignRoot (pxNode : Option Addr)

def NodeCall.run : NodeCall → H Unit
  | .pxNetworkNodeCreate uxNumChildren => discard (Pointers.pxNetworkNodeCreate uxNumChildren)
  | .vNetworkNodeRelease pxNode => Pointers.vNetworkNodeRelease pxNode
  | .pvNetworkSchedulerGenericCreate pxNode usSize => discard (Pointers.pvNetworkSchedulerGenericCreate pxNode usSize)
  | .vNetworkSchedulerGenericRelease pvSched => Pointers.vNetworkSchedulerGenericRelease pvSched
  | .pxNetworkNodeCreatePrio uxNumChildren => discard (Pointers.pxNetworkNodeCreatePrio uxNumChildren)
  | .pxNetworkNodeCreateFIFO => discard Pointers.pxNetworkNodeCreateFIFO
  | .pxNetworkNodeCreateCBS uxBandwidth uxMaxCredit =>
      discard (Pointers.pxNetworkNodeCreateCBS uxBandwidth uxMaxCredit)
  | .xNetworkSchedulerLinkQueue pxNode pxQueue => discard (Pointers.xNetworkSchedulerLinkQueue pxNode pxQueue)
  | .xNetworkSchedulerLinkChild pxNode pxChild uxPosition =>
      discard (Pointers.xNetworkSchedulerLinkChild pxNode pxChild uxPosition)
  | .xNetworkQueueAssignRoot pxNode => discard (Pointers.xNetworkQueueAssignRoot pxNode)

def Nodes.Slot (h : Nodes) (pxNode : Addr) (uxPosition : Nat) (pxChild : Addr) : Prop :=
  (h.slots pxNode)[uxPosition]? = some (some pxChild)

def Nodes.Child (h : Nodes) (pxNode pxChild : Addr) : Prop := ∃ uxPosition, h.Slot pxNode uxPosition pxChild

/-- What the code leaves to its callers: the number of children fits 8 bits, a node that is linked is not released, and
a child is a node that is not linked yet, nor above its parent. -/
def NodeCall.Allowed (h : Nodes) : NodeCall → Prop
  | .pxNetworkNodeCreate uxNumChildren | .pxNetworkNodeCreatePrio uxNumChildren => uxNumChildren < 256
  | .vNetworkNodeRelease (some pxNode) => (∀ a, ¬h.Child a pxNode) ∧ h.pxNetworkQueueRoot ≠ some pxNode
  | .xNetworkSchedulerLinkChild (some pxNode) (some pxChild) _ =>
      (h.nodes pxChild).isSome ∧ (∀ a, ¬h.Child a pxChild) ∧ ¬Relation.ReflTransGen h.Child pxChild pxNode
  | .xNetworkQueueAssignRoot (some pxNode) => (h.nodes pxNode).isSome
  | _ => True

structure Setup.Starts (s : Setup) : Prop where
  nodes : ∀ a, s.h.nodes a = none
  schedulers : ∀ a, s.h.schedulers a = none
  pxNetworkQueueRoot : s.h.pxNetworkQueueRoot = none

/-- A call that returns, or other code. -/
inductive SetupStep : Setup → Setup → Prop
  | call {s s' : Setup} (c : NodeCall) : c.Allowed s.h → c.run.run s = .ok () s' → SetupStep s s'
  | other {s : Setup} {w' : World} : s.w.calls ≤ w'.calls → SetupStep s { s with w := w' }

/-! ## The tree -/

/-- The tree that the pointers make up, to a depth of `n`. -/
def Nodes.tree (h : Nodes) : Nat → Option Addr → NetworkNode
  | 0, _ => .null
  | n + 1, pxNode =>
      match h.load pxNode with
      | .error _ => .null
      | .ok (node, pvScheduler) =>
          .mk node.block.ucNumChildren.toNat pvScheduler node.block.pxQueue (node.block.pxNext.toList.map (h.tree n))

/-- The children that a round may go on to. -/
def Nodes.children (h : Nodes) (pxNode : Addr) : List Addr :=
  match h.nodes pxNode with
  | none => []
  | some node => if node.block.pxQueue.isSome then [] else node.block.pxNext.toList.filterMap id

/-- The rules of the template: a node has a scheduler, and a queue or a child in every slot. -/
def Nodes.Complete (h : Nodes) (pxNode : Addr) : Prop :=
  ∃ node pvScheduler, h.load (some pxNode) = .ok (node, pvScheduler) ∧ (node.block.pxQueue = none →
    (pvScheduler.fnSelect = .prvSelectFirst → node.block.pxNext.toList.length = 1) ∧ none ∉ node.block.pxNext.toList)

/-- Each node that a round may come to is complete. -/
def Nodes.AllComplete (h : Nodes) : Prop :=
  ∃ root, h.pxNetworkQueueRoot = some root ∧
    ∀ a, Relation.ReflTransGen (fun a b => b ∈ h.children a) root a → h.Complete a

/-- The number of nodes that exist. -/
noncomputable def Nodes.uxNodes (h : Nodes) : Nat := {a | (h.nodes a).isSome}.ncard

noncomputable def Nodes.root (h : Nodes) : NetworkNode := h.tree h.uxNodes h.pxNetworkQueueRoot

/-- A null pointer, or a pointer to a node that exists. -/
def Nodes.Valid (h : Nodes) (pxNode : Option Addr) : Prop := ∀ a, pxNode = some a → (h.nodes a).isSome

/-- Calls follow the tree, on a stack with room for a call of every node and of a null pointer. -/
structure Nodes.Unfolds (cfg : Config) (h : Nodes) : Prop where
  call : ∀ uxStack pxNode, h.uxNodes < uxStack → h.Valid pxNode →
    Pointers.pxNetworkSchedulerCall cfg h uxStack pxNode =
      Scheduler.pxNetworkSchedulerCall cfg (h.tree h.uxNodes pxNode)
  schedule : h.AllComplete → ∀ uxStack, h.uxNodes < uxStack →
    Pointers.xNetworkQueueSchedule cfg h uxStack = Scheduler.xNetworkQueueSchedule cfg h.root
  wellBuilt : h.AllComplete → h.root.WellBuilt

end FreeRtosTsn.Scheduler.Pointers
