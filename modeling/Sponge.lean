import Sponge.Lib.Word
import Sponge.Lib.While
import Sponge.Lib.OrderedMap
import Sponge.Lib.Intervals
import Sponge.Outcome
import Sponge.Stream.ByteStream
import Sponge.Stream.ByteStreamLaws
import Sponge.Tcp.WrappingIntegers
import Sponge.Tcp.UnwrapLaws
import Sponge.Tcp.Segment
import Sponge.Stream.StreamReassembler
import Sponge.Stream.ReassemblerStore
import Sponge.Stream.ReassemblerFlush
import Sponge.Stream.ReassemblerLaws
import Sponge.Lib.Runs
import Sponge.Stream.StreamCounters
import Sponge.Lib.BoundedFifo
import Sponge.Stream.StreamFifo
import Sponge.Stream.ExactReassembly
import Sponge.Stream.IntervalMap
import Sponge.Tcp.Receiver
import Sponge.Tcp.ReceiverLaws
import Sponge.Tcp.ReceiverWindow
import Sponge.Stream.ReassemblerGrowth
import Sponge.Stream.ReassemblerRest
import Sponge.Stream.ReassemblerEnd
import Sponge.Stream.ReassemblerRoom
import Sponge.Stream.ReassemblerTame
import Sponge.Tcp.ReceiverIsn
import Sponge.Tcp.ReceiverEnd
import Sponge.Tcp.Sender
import Sponge.Tcp.SenderLaws
import Sponge.Tcp.SenderQueue
import Sponge.Tcp.SenderRuns
import Sponge.Tcp.SenderSequence
import Sponge.Tcp.FillProgress
import Sponge.Tcp.Segmentation
import Sponge.Tcp.RetransmissionTimer
import Sponge.Tcp.SenderWindow
import Sponge.Tcp.SenderAccounts
import Sponge.Tcp.SenderProgress
import Sponge.Tcp.SenderReplay
import Sponge.Tcp.State
import Sponge.Tcp.Connection
import Sponge.Tcp.Flow
import Sponge.Tcp.ConnectionLaws
import Sponge.Tcp.ConnectionRuns
import Sponge.Tcp.ConnectionSender
import Sponge.Tcp.ConnectionReceiver
import Sponge.Tcp.FinLast
import Sponge.Tcp.Linger
import Sponge.Tcp.Advertised
import Sponge.Tcp.Silence
import Sponge.Tcp.Listen
import Sponge.Tcp.SenderProductive
import Sponge.Tcp.Backoff
import Sponge.Tcp.Answers
import Sponge.Tcp.TimeWait
import Sponge.Tcp.Network
import Sponge.Tcp.Coupling
import Sponge.Lib.Pipe
import Sponge.Tcp.EndToEnd
import Sponge.Tcp.AckLoops
import Sponge.Tcp.Refinement
import Sponge.Tcp.ReceiverExact
import Sponge.Lib.BigEndian
import Sponge.Lib.Observed
import Sponge.Lib.OnesComplement
import Sponge.Wire.Parser
import Sponge.Lib.Chunks
import Sponge.Wire.Buffer
import Sponge.Wire.Checksum
import Sponge.Wire.ChecksumLaws
import Sponge.Wire.IPv4
import Sponge.Wire.IPv4Laws
import Sponge.Wire.TcpCodec
import Sponge.Wire.TcpLaws
import Sponge.Net.TcpOverIp
import Sponge.Net.Binding
import Sponge.Lib.HashMap
import Sponge.Lib.Stopwatch
import Sponge.Wire.Ethernet
import Sponge.Wire.EthernetLaws
import Sponge.Net.NetworkInterface
import Sponge.Net.InterfaceLaws
import Sponge.Net.InterfaceRuns
import Sponge.Net.FrameEffects
import Sponge.Net.Delivery
import Sponge.Net.Timeline
import Sponge.Net.ArpCache
import Sponge.Net.ArpRequests
import Sponge.Net.Router
import Sponge.Net.RoutingTable
import Sponge.Net.DefaultRoute
import Sponge.Net.RouterSafety
import Sponge.Net.Forwarding
import Sponge.Net.Trust
import Sponge.Net.RouteRule
import Sponge.Net.Internet
import Sponge.Net.InternetLaws
import Sponge.Lib.Settles
import Sponge.Io.FileDescriptor
import Sponge.Io.EventLoop
import Sponge.Io.EventLoopLaws
import Sponge.Io.RuleLifecycle
import Sponge.Io.Environment
import Sponge.Tcp.SegmentSize
import Sponge.Tcp.Lifecycle
import Sponge.Tcp.Conclusion
import Sponge.Tcp.StateMachine
import Sponge.Socket.Adapters
import Sponge.Socket.Transparency
import Sponge.Socket.OverEthernet
import Sponge.Socket.SpongeSocket
import Sponge.Socket.SocketPair
import Sponge.Socket.SocketRuns
import Sponge.Socket.CleanExit
import Sponge.Apps.StreamCopy
import Sponge.Apps.StreamCopyLaws
import Sponge.Apps.Programs
