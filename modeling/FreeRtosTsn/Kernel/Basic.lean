import FreeRtosTsn.Lib.Bytes
import Mathlib.Logic.Function.Basic

/-!
# Types of the target

A 32-bit little-endian target: `TickType_t`, `UBaseType_t` and `size_t` are 32 bits wide. Pointers to objects of
one kind are numbers; a null pointer is `none`.
-/

namespace FreeRtosTsn.Kernel

open Lib

/-! ## Numbers -/

def wrap32 (n : Nat) : Nat := n % 2 ^ 32

/-- Unsigned subtraction: a negative difference wraps. -/
def sub32 (a b : Nat) : Nat := wrap32 (a + (2 ^ 32 - wrap32 b))

def portMaxDelay : Nat := 2 ^ 32 - 1

theorem wrap32_of_lt {n : Nat} (h : n < 2 ^ 32) : wrap32 n = n := Nat.mod_eq_of_lt h

theorem wrap32_lt (n : Nat) : wrap32 n < 2 ^ 32 := Nat.mod_lt _ (by decide)

theorem wrap32_le (n : Nat) : wrap32 n ≤ n := Nat.mod_le _ _

theorem wrap32_add_one (n : Nat) : wrap32 (wrap32 n + 1) = wrap32 (n + 1) := by
  simp only [wrap32]
  omega

theorem sub32_of_le {a b : Nat} (h : b ≤ a) (ha : a < 2 ^ 32) : sub32 a b = a - b := by
  simp only [sub32, wrap32]
  omega

/-! ## Configuration -/

/-- FreeRTOSConfig.h, FreeRTOSIPConfig.h and FreeRTOSTSNConfig.h, as far as the code reads them. The fields that are
propositions are the `#error`s and the clamp of the default headers. -/
structure Config where
  configTickRateHz : Nat := 1000
  configMaxPriorities : Nat := 7
  ipconfigEventQueueLength : Nat := 16
  ipconfigNetworkMtu : Nat := 1500
  ipconfigEthernetMinimumPacketBytes : Nat := 0
  ipconfigUdpTimeToLive : UInt8 := 128
  tsnconfigDefaultQueueTimeout : Nat := 50
  tsnconfigControllerMaxEventWait : Nat := 1000
  tsnconfigMaxQueueNameLen : Nat := 32
  tsnconfigControllerHasDynamicPrio : Bool := false
  tsnconfigTsnControllerPriority : Nat := 6
  tsnconfigWrapperInsertsVlanTags : Bool := true
  tsnconfigSocketInsertsVlanTags : Bool := false
  tsnconfigErrqueueLength : Nat := 16
  tags_exclusive : (tsnconfigWrapperInsertsVlanTags && tsnconfigSocketInsertsVlanTags) = false := by decide
  mtu_le : ipconfigNetworkMtu < 2 ^ 31 := by decide
  mtu_ge : 46 ≤ ipconfigNetworkMtu := by decide

/-- `pdMS_TO_TICKS`, computed in 64 bits and cut to a `TickType_t`. -/
def pdMsToTicks (cfg : Config) (xTimeInMs : Nat) : Nat := wrap32 (xTimeInMs * cfg.configTickRateHz / 1000)

/-! ## Errors that stop the code -/

/-- A null pointer or a dead block was dereferenced, a `configASSERT` failed, or a number was divided by zero. -/
inductive Fault
  | null
  | heap
  | assert
  | divZero
  deriving DecidableEq, Repr

/-! ## Pointers -/

abbrev BufId := Nat
abbrev Addr := Nat
abbrev QueueHandle := Nat
abbrev SockId := Nat
abbrev IfaceId := Nat
abbrev EndPointId := Nat
abbrev CbsId := Nat

/-- A pointer to bytes: into the Ethernet buffer of a descriptor, or to a block of the heap. A descriptor's id
names one allocation of it together with the Ethernet buffer it got, so `eth b 0` is the original value of the
`pucEthernetBuffer` of `b`. -/
inductive Ptr
  | eth (b : BufId) (off : Nat)
  | blk (a : Addr)
  deriving DecidableEq, Repr

/-! ## Network buffers -/

/-- `IP_Address_t`, in network byte order. -/
inductive IPAddress
  | ipv4 (a : UInt32)
  | ipv6 (a : List UInt8)
  deriving DecidableEq, Repr

def IPAddress.ulIPv4 : IPAddress → UInt32
  | .ipv4 a => a
  | .ipv6 a => Mem.load32 (fun i => a.getD i 0) 0

abbrev MACAddress := Vector UInt8 6

structure EndPoint where
  pxNetworkInterface : IfaceId
  xMACAddress : MACAddress
  ulIPAddress : UInt32

/-- `NetworkInterfaceConfig_t`, the `pvArgument` of an interface. -/
structure NetworkInterfaceConfig where
  xNumTags : Nat
  usVLANTag : UInt16
  usServiceVLANTag : UInt16

structure NetworkBufferDescriptor where
  pucEthernetBuffer : Ptr
  xDataLength : Nat
  pxInterface : Option IfaceId
  pxEndPoint : Option EndPointId
  usPort : UInt16
  usBoundPort : UInt16
  xIPAddress : IPAddress

/-! ## Network queues -/

/-- `eIPEvent_t`: the two events the code tells apart, and the rest. -/
inductive IPEvent
  | eNetworkRxEvent
  | eNetworkTxEvent
  | other (n : Nat)
  deriving DecidableEq, Repr

inductive QueuePolicy
  | eSendRecv
  | eSendOnly
  | eRecvOnly
  | eIPTaskEvents
  deriving DecidableEq, Repr

structure NetworkQueueItem where
  eEventType : IPEvent
  pxBuf : Option BufId
  pxMsgh : Option Addr
  xReleaseAfterSend : Bool
  deriving DecidableEq, Repr

/-- A pure function of the descriptor and the bytes of its frame. It is called with `none` for a null pointer. -/
abbrev FilterFunction := Option (NetworkBufferDescriptor × Mem) → Bool

/-- `NetworkQueue_t`. It is never written after its creation, so a pointer to it is its value. The name is the
string in `cName`, without its terminator. -/
structure NetworkQueue where
  xQueue : QueueHandle
  uxIPV : Nat
  ePolicy : QueuePolicy
  cName : List UInt8
  fnFilter : FilterFunction

/-! ## Messages -/

structure Iovec where
  iovBase : Ptr
  iovLen : Nat
  deriving DecidableEq, Repr

structure Msghdr where
  msgName : Option Addr := none
  msgNamelen : Nat := 0
  msgIov : Option Addr := none
  msgIovlen : Nat := 0
  msgControl : Option Addr := none
  msgControllen : Nat := 0
  msgFlags : Nat := 0
  deriving DecidableEq, Repr

/-- `struct freertos_sockaddr`; the port is in network byte order. -/
structure Sockaddr where
  sinLen : UInt8
  sinFamily : UInt8
  sinPort : UInt16
  sinFlowinfo : UInt32
  sinAddress : IPAddress
  deriving DecidableEq, Repr

def Sockaddr.size : Nat := 24

def Sockaddr.bytes (a : Sockaddr) : List UInt8 :=
  [a.sinLen, a.sinFamily] ++ bytes16 a.sinPort ++ bytes32 a.sinFlowinfo ++
    match a.sinAddress with
    | .ipv4 x => bytes32 x ++ List.replicate 12 0
    | .ipv6 x => (x ++ List.replicate 16 0).take 16

structure Timespec where
  tvSec : UInt32
  tvNsec : UInt32
  deriving DecidableEq, Repr

/-! ## Sockets -/

/-- `FreeRTOS_Socket_t` of the +TCP stack, as far as the code uses it. -/
structure BaseSocket where
  bBound : Bool
  usLocalPort : UInt16
  xWaitingPacketsList : List BufId
  bIsIPv6 : Bool
  xReceiveBlockTime : Nat
  xSendBlockTime : Nat
  pxEndPoint : Option EndPointId

/-- `FreeRTOS_TSN_Socket_t`. -/
structure TSNSocket where
  xBaseSocket : SockId
  xErrQueue : QueueHandle
  ucVLANTagsCount : Nat
  usVLANCTagTCI : UInt16
  usVLANSTagTCI : UInt16
  ucDSClass : UInt8
  ulTSFlags : Nat

/-- What a block of the heap holds. -/
inductive Block
  | msghdr (m : Msghdr)
  | iovec (v : List Iovec)
  | sockaddr (a : Sockaddr)
  | control (bs : List UInt8)
  | item (i : NetworkQueueItem)
  | tsnSocket (s : TSNSocket)

end FreeRtosTsn.Kernel
