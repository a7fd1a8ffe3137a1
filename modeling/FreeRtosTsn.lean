import FreeRtosTsn.Lib.Prog
import FreeRtosTsn.Lib.Rely
import FreeRtosTsn.Lib.Mirror
import FreeRtosTsn.Lib.Frame
import FreeRtosTsn.Lib.Hook
import FreeRtosTsn.Lib.Bytes
import FreeRtosTsn.Lib.Pacing
import FreeRtosTsn.Lib.Places
import FreeRtosTsn.Lib.FirstMax
import FreeRtosTsn.Lib.Ethernet
import FreeRtosTsn.Lib.Walk
import FreeRtosTsn.Lib.Clock
import FreeRtosTsn.Lib.Digits
import FreeRtosTsn.Lib.BitField
import FreeRtosTsn.Lib.Count
import FreeRtosTsn.Lib.Forest
import FreeRtosTsn.Lib.Rounds
import FreeRtosTsn.Lib.Lines
import FreeRtosTsn.Kernel.Basic
import FreeRtosTsn.Kernel.World
import FreeRtosTsn.Kernel.Stack
import FreeRtosTsn.Scheduler.Calls
import FreeRtosTsn.Scheduler.Queue
import FreeRtosTsn.Scheduler.Filter
import FreeRtosTsn.Scheduler.Tree
import FreeRtosTsn.Scheduler.Lemmas.Ready
import FreeRtosTsn.Scheduler.Controller
import FreeRtosTsn.Scheduler.System
import FreeRtosTsn.Scheduler.Shaper
import FreeRtosTsn.Scheduler.Priority
import FreeRtosTsn.Scheduler.Service
import FreeRtosTsn.Scheduler.Order
import FreeRtosTsn.Scheduler.Round
import FreeRtosTsn.Scheduler.Wrap
import FreeRtosTsn.Scheduler.Arithmetic
import FreeRtosTsn.Scheduler.Linking
import FreeRtosTsn.Scheduler.Registry
import FreeRtosTsn.Scheduler.Overtaking
import FreeRtosTsn.Scheduler.Response
import FreeRtosTsn.Scheduler.Lemmas.Tasks
import FreeRtosTsn.Scheduler.Lemmas.Wakeup
import FreeRtosTsn.Scheduler.Lemmas.Sleep
import FreeRtosTsn.Scheduler.Lemmas.Shaper
import FreeRtosTsn.Scheduler.Lemmas.Priority
import FreeRtosTsn.Scheduler.Lemmas.Service
import FreeRtosTsn.Scheduler.Lemmas.Round
import FreeRtosTsn.Scheduler.Lemmas.Wrap
import FreeRtosTsn.Scheduler.Lemmas.Arithmetic
import FreeRtosTsn.Scheduler.Lemmas.Linking
import FreeRtosTsn.Scheduler.Lemmas.Registry
import FreeRtosTsn.Scheduler.Lemmas.Lookup
import FreeRtosTsn.Scheduler.Lemmas.Overtaking
import FreeRtosTsn.Scheduler.Lemmas.Response
import FreeRtosTsn.Scheduler.Theorems
import FreeRtosTsn.Scheduler.Theorems.Arithmetic
import FreeRtosTsn.Scheduler.Theorems.Linking
import FreeRtosTsn.Scheduler.Theorems.Registry
import FreeRtosTsn.Scheduler.Theorems.Overtaking
import FreeRtosTsn.Scheduler.Theorems.Response
import FreeRtosTsn.Scheduler.Pointers
import FreeRtosTsn.Scheduler.Lemmas.Pointers
import FreeRtosTsn.Scheduler.Lemmas.Unfold
import FreeRtosTsn.Scheduler.Theorems.Pointers
import FreeRtosTsn.Packet.VlanTags
import FreeRtosTsn.Packet.Ancillary
import FreeRtosTsn.Packet.Control
import FreeRtosTsn.Packet.Sockets
import FreeRtosTsn.Packet.Wrapper
import FreeRtosTsn.Packet.Deliver
import FreeRtosTsn.Packet.Spec
import FreeRtosTsn.Packet.Bounds
import FreeRtosTsn.Packet.Sending
import FreeRtosTsn.Packet.Received
import FreeRtosTsn.Packet.Tagging
import FreeRtosTsn.Packet.Demux
import FreeRtosTsn.Packet.Options
import FreeRtosTsn.Packet.SourceAddress
import FreeRtosTsn.Packet.Lemmas.Heap
import FreeRtosTsn.Packet.Lemmas.Tags
import FreeRtosTsn.Packet.Lemmas.Messages
import FreeRtosTsn.Packet.Lemmas.Build
import FreeRtosTsn.Packet.Lemmas.Control
import FreeRtosTsn.Packet.Lemmas.Output
import FreeRtosTsn.Packet.Lemmas.Forward
import FreeRtosTsn.Packet.Lemmas.Parse
import FreeRtosTsn.Packet.Lemmas.Bounds
import FreeRtosTsn.Packet.Lemmas.Receive
import FreeRtosTsn.Packet.Lemmas.Deliver
import FreeRtosTsn.Packet.Lemmas.Flight
import FreeRtosTsn.Packet.Lemmas.Sockets
import FreeRtosTsn.Packet.Lemmas.Arrive
import FreeRtosTsn.Packet.Lemmas.Node
import FreeRtosTsn.Packet.Lemmas.Report
import FreeRtosTsn.Packet.Lemmas.Take
import FreeRtosTsn.Packet.Lemmas.Recvmsg
import FreeRtosTsn.Packet.Lemmas.Waiting
import FreeRtosTsn.Packet.Lemmas.Prepare
import FreeRtosTsn.Packet.Lemmas.Send
import FreeRtosTsn.Packet.Lemmas.Layout
import FreeRtosTsn.Packet.Lemmas.SendBounds
import FreeRtosTsn.Packet.Lemmas.Datagram
import FreeRtosTsn.Packet.Lemmas.Received
import FreeRtosTsn.Packet.Lemmas.Tagging
import FreeRtosTsn.Packet.Lemmas.Demux
import FreeRtosTsn.Packet.Lemmas.Options
import FreeRtosTsn.Packet.Lemmas.SourceAddress
import FreeRtosTsn.Packet.Theorems
import FreeRtosTsn.Packet.Theorems.Send
import FreeRtosTsn.Packet.Theorems.Control
import FreeRtosTsn.Packet.Theorems.Receive
import FreeRtosTsn.Packet.Theorems.Tagging
import FreeRtosTsn.Packet.Theorems.Demux
import FreeRtosTsn.Packet.Theorems.Options
import FreeRtosTsn.Packet.Theorems.SourceAddress
import FreeRtosTsn.Resources.Places
import FreeRtosTsn.Resources.Lifecycle
import FreeRtosTsn.Resources.Timestamps
import FreeRtosTsn.Resources.Lemmas.Delivery
import FreeRtosTsn.Resources.Lemmas.Reception
import FreeRtosTsn.Resources.Lemmas.Table
import FreeRtosTsn.Resources.Lemmas.Live
import FreeRtosTsn.Resources.Lemmas.Timestamps
import FreeRtosTsn.Resources.Theorems
import FreeRtosTsn.Resources.Timebase
import FreeRtosTsn.Resources.Lemmas.Timebase
import FreeRtosTsn.Resources.Theorems.Timebase
import FreeRtosTsn.Timebase.Timespec
import FreeRtosTsn.Timebase.Spec
import FreeRtosTsn.Timebase.Lemmas
import FreeRtosTsn.Timebase.Theorems
import FreeRtosTsn.Fields.VlanTags
import FreeRtosTsn.Fields.DiffServ
import FreeRtosTsn.Fields.Spec
import FreeRtosTsn.Fields.Lemmas.Tags
import FreeRtosTsn.Fields.Lemmas.DiffServ
import FreeRtosTsn.Fields.Theorems
import FreeRtosTsn.Node.Serving
import FreeRtosTsn.Node.Lemmas.Serving
import FreeRtosTsn.Node.Theorems
import FreeRtosTsn.Node.Buffers
import FreeRtosTsn.Node.Lemmas.Buffers
import FreeRtosTsn.Node.Lemmas.Calls
import FreeRtosTsn.Node.Lemmas.Conserve
import FreeRtosTsn.Node.Theorems.Buffers
import FreeRtosTsn.Node.Theorems.Order
import FreeRtosTsn.Blocking.Receive
import FreeRtosTsn.Blocking.Lemmas
import FreeRtosTsn.Blocking.Theorems
