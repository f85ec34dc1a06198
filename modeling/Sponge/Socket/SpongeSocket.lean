import Sponge.Io.Environment
import Sponge.Socket.Adapters
import Sponge.Tcp.ConnectionRuns

/-! A TCP connection run by an event loop, between an adapter and the socket of its owner. -/

namespace Sponge

/-- The text of a receiver's summary. -/
def TCPReceiverStateSummary.text : TCPReceiverStateSummary → String
  | .error => "error (connection was reset)"
  | .listen => "waiting for SYN: ackno is empty"
  | .synRecv => "SYN received (ackno exists), and input to stream hasn't ended"
  | .finRecv => "input to stream has ended"

/-- The text of a sender's summary. -/
def TCPSenderStateSummary.text : TCPSenderStateSummary → String
  | .error => "error (connection was reset)"
  | .closed => "waiting for stream to begin (no SYN sent)"
  | .synSent => "stream started but nothing acknowledged"
  | .synAcked => "stream ongoing"
  | .finSent => "stream finished (FIN sent) but not fully acknowledged"
  | .finAcked => "stream finished and fully acknowledged"

/-- `TCPState::name`. -/
def TCPState.name (state : TCPState) : String :=
  "sender=`" ++ state.sender.text ++ "`, receiver=`" ++ state.receiver.text ++ "`, active=" ++
    (if state.active then "1" else "0") ++ ", linger_after_streams_finish=" ++
    (if state.lingerAfterStreamsFinish then "1" else "0")

/-- What the TCP thread of a socket works on, with the history of what went through it. -/
structure TCPSpongeSocket (α : Type) where
  /-- The stream socket between the owner and the TCP thread. -/
  threadData : FileDescriptor := {}
  /-- The adapter to the underlying datagrams. -/
  datagramAdapter : α
  /-- The TCP state machine. -/
  tcp : TCPConnection
  /-- The incoming data to the owner was shut down. -/
  inboundShutdown : Bool := false
  /-- The owner has shut down the outbound data. -/
  outboundShutdown : Bool := false
  /-- The outbound data was seen to be fully acknowledged. -/
  fullyAcked : Bool := false
  /-- Every byte read from the owner. -/
  fromOwner : Bytes := []
  /-- Every byte written to the owner. -/
  toOwner : Bytes := []
  /-- The end of the incoming data was reported to the owner, and not because of an error. -/
  finishedCleanly : Bool := false
  /-- Every segment given to the adapter. -/
  handed : List TCPSegment := []
  /-- Every packet that the adapter has sent. -/
  packets : List Bytes := []
deriving DecidableEq

/-- What the kernel answers during the callback of a rule. -/
structure Answers (ρ υ : Type) where
  /-- To a read of the adapter. -/
  arriving : ρ
  /-- To its writes, one after another. -/
  outgoing : Nat → υ
  /-- To a read of the owner's data. -/
  data : SysResult Bytes
  /-- To a write of data for the owner. -/
  accepted : SysResult Nat
  /-- To the shutdown of that data. -/
  shutdown : SysResult Unit

namespace TCPSpongeSocket

variable {α ρ υ : Type} [FdAdapter α ρ υ]

/-- The names of the rules. -/
inductive RuleName where
  /-- Rule 1: read from filtered packet stream and dump into TCPConnection. -/
  | incoming
  /-- Rule 2: read from pipe into outbound buffer. -/
  | outbound
  /-- Rule 3: read from inbound buffer into pipe. -/
  | inbound
  /-- Rule 4: read outbound segments from TCPConnection and send as datagrams. -/
  | outgoing
deriving DecidableEq, Repr

/-- Notices once that everything was acknowledged. -/
def noteAcked (s : TCPSpongeSocket α) : TCPSpongeSocket α :=
  if s.threadData.eof && s.tcp.bytesInFlight == 0 && !s.fullyAcked then
    { s with fullyAcked := true }
  else s

/-- Gives a segment to the connection, if there is one. -/
def deliver (s : TCPSpongeSocket α) : Option TCPSegment → Except Failure (TCPSpongeSocket α)
  | none => .ok s
  | some seg => do
    let tcp ← ofFault (s.tcp.segmentReceived seg)
    return { s with tcp }

/-- The callback of rule 1. -/
def incoming (answers : Answers ρ υ) (s : TCPSpongeSocket α) :
    Except Failure (TCPSpongeSocket α) := do
  let (seg, sent, datagramAdapter) ← FdAdapter.read s.datagramAdapter answers.arriving
  let s ← deliver { s with datagramAdapter, packets := s.packets ++ sent } seg
  return s.noteAcked

/-- Ends the outbound stream. -/
def endOutbound (s : TCPSpongeSocket α) : Except Failure (TCPSpongeSocket α) := do
  let tcp ← ofFault s.tcp.endInputStream
  return { s with tcp, outboundShutdown := true }

/-- The callback of rule 2. -/
def outbound (answers : Answers ρ υ) (s : TCPSpongeSocket α) :
    Except Failure (TCPSpongeSocket α) := do
  let (data, threadData) ← s.threadData.read s.tcp.remainingOutboundCapacity answers.data
  let (tcp, amountWritten) ← ofFault (s.tcp.write data)
  if amountWritten ≠ data.length then
    .error (.runtime "TCPConnection::write() accepted less than advertised length")
  else
    let s := { s with threadData, tcp, fromOwner := s.fromOwner ++ data }
    if threadData.eof then s.endOutbound else return s

/-- Tells the owner that the incoming data has ended, if it has. -/
def endInbound (answers : Answers ρ υ) (s : TCPSpongeSocket α) :
    Except Failure (TCPSpongeSocket α) :=
  if s.tcp.inboundStream.eof || s.tcp.inboundStream.error then do
    let threadData ← s.threadData.shutdownWrite answers.shutdown
    return { s with
      threadData
      inboundShutdown := true
      finishedCleanly := s.finishedCleanly || !s.tcp.inboundStream.error }
  else .ok s

/-- The callback of rule 3. -/
def inbound (answers : Answers ρ υ) (s : TCPSpongeSocket α) :
    Except Failure (TCPSpongeSocket α) := do
  let (data, threadData, inbound) ←
    s.threadData.writeFront 65536 s.tcp.inboundStream answers.accepted
  endInbound answers { s with
    threadData
    tcp := s.tcp.withInbound inbound
    toOwner := s.toOwner ++ data }

/-- Writes the segments of a queue to the adapter, and pops each one afterwards. -/
def drain (answers : Nat → υ) :
    List TCPSegment → TCPSpongeSocket α → Except Failure (TCPSpongeSocket α)
  | [], s => .ok s
  | seg :: rest, s => do
    let (sent, datagramAdapter) ← FdAdapter.write s.datagramAdapter seg (answers 0)
    drain (fun n => answers (n + 1)) rest { s with
      datagramAdapter
      tcp := { s.tcp with segmentsOut := rest }
      handed := s.handed ++ [seg]
      packets := s.packets ++ sent }

/-- The callback of rule 4. -/
def outgoing (answers : Answers ρ υ) (s : TCPSpongeSocket α) :
    Except Failure (TCPSpongeSocket α) :=
  drain answers.outgoing s.tcp.segmentsOut s

/-- The four rules that `_initialize_TCP` adds. -/
def table : RuleName → Rule (TCPSpongeSocket α) (Answers ρ υ)
  | .incoming =>
    { fd := fun s => FdAdapter.fd s.datagramAdapter
      direction := .input
      callback := incoming
      interest := fun s => s.tcp.active }
  | .outbound =>
    { fd := threadData
      direction := .input
      callback := outbound
      interest := fun s => s.tcp.active && !s.outboundShutdown &&
        decide (0 < s.tcp.remainingOutboundCapacity)
      cancel := endOutbound }
  | .inbound =>
    { fd := threadData
      direction := .output
      callback := inbound
      interest := fun s => !s.tcp.inboundStream.bufferEmpty ||
        ((s.tcp.inboundStream.eof || s.tcp.inboundStream.error) && !s.inboundShutdown) }
  | .outgoing =>
    { fd := fun s => FdAdapter.fd s.datagramAdapter
      direction := .output
      callback := outgoing
      interest := fun s => !s.tcp.segmentsOut.isEmpty }

/-- The rules in the order in which they are added. -/
def rules : List RuleName := [.incoming, .outbound, .inbound, .outgoing]

/-- Lets time pass for the connection and for the adapter. -/
def tick (s : TCPSpongeSocket α) (ms : Nat) (answer : υ) : Except Failure (TCPSpongeSocket α) := do
  let (sent, datagramAdapter) ← FdAdapter.tick s.datagramAdapter ms answer
  return { s with
    tcp := s.tcp.tick ms
    datagramAdapter
    packets := s.packets ++ sent }

end TCPSpongeSocket

/-- The loops that a socket goes through. -/
inductive Stage where
  /-- In `connect`. -/
  | connecting
  /-- In `listen_and_accept`. -/
  | accepting
  /-- In `_tcp_main`. -/
  | running
  /-- Behind all loops. -/
  | finished
deriving DecidableEq, Repr

/-- The condition under which a loop goes on. -/
def Stage.condition (stage : Stage) (state : TCPState) : Bool :=
  match stage with
  | .connecting => state = .ofState .synSent
  | .accepting =>
    state = .ofState .listen || state = .ofState .synRcvd || state = .ofState .synSent
  | .running => true
  | .finished => false

/-- A socket with the loop it is in. -/
structure TcpThread (α : Type) where
  /-- The loop. -/
  stage : Stage
  /-- The rules that are left in the event loop. -/
  rules : List TCPSpongeSocket.RuleName := TCPSpongeSocket.rules
  /-- The time of the last tick. -/
  baseTime : Nat
  /-- The socket. -/
  socket : TCPSpongeSocket α
deriving DecidableEq

/-- What happens during one turn of a loop. -/
structure Turn (ρ υ : Type) where
  /-- What `poll` finds. -/
  poll : PollResult (Answers ρ υ)
  /-- Whether the owner has set the flag `_abort`. -/
  abort : Bool := false
  /-- The time after the wait. -/
  now : Nat
  /-- What the kernel answers when the adapter is told the time. -/
  tick : υ
  /-- What it answers to the shutdown of the socket at the end. -/
  shutdown : SysResult Unit := .returned ()

namespace TcpThread

variable {α ρ υ : Type} [FdAdapter α ρ υ]

/-- What follows behind a loop. -/
def leave (t : TcpThread α) (turn : Turn ρ υ) : Except Failure (TcpThread α) :=
  match t.stage with
  | .connecting | .accepting => .ok { t with stage := .running, baseTime := turn.now }
  | .running => do
    systemCall "shutdown" turn.shutdown
    return { t with stage := .finished }
  | .finished => .ok t

/-- One turn of `_tcp_loop`, or the way out of it. -/
def step (t : TcpThread α) (turn : Turn ρ υ) : Except Failure (TcpThread α) :=
  if t.stage.condition t.socket.tcp.state then do
    let (ret, rules, socket) ←
      EventLoop.waitNextEvent TCPSpongeSocket.table t.rules t.socket turn.poll
    if ret = .exit ∨ turn.abort then leave { t with rules, socket } turn
    else if socket.tcp.active then do
      let socket ← socket.tick (sub64 turn.now t.baseTime) turn.tick
      return { t with rules, socket, baseTime := turn.now }
    else return { t with rules, socket }
  else t.leave turn

/-- `connect`, up to its loop. -/
def connect (adapter : α) (cfg : TCPConfig) (isn : WrappingInt32) (adapterCfg : FdAdapterConfig)
    (now : Nat) : Except Failure (TcpThread α) := do
  let tcp ← ofFault (TCPConnection.new cfg isn).connect
  let expectedState : TCPState := .ofState .synSent
  if tcp.state ≠ expectedState then
    .error (.runtime ("After TCPConnection::connect(), state was " ++ tcp.state.name ++
      " but expected " ++ expectedState.name))
  else return {
    stage := .connecting
    baseTime := now
    socket := { datagramAdapter := FdAdapter.setConfig adapter adapterCfg, tcp } }

/-- `listen_and_accept`, up to its loop. -/
def listenAndAccept (adapter : α) (cfg : TCPConfig) (isn : WrappingInt32)
    (adapterCfg : FdAdapterConfig) (now : Nat) : TcpThread α where
  stage := .accepting
  baseTime := now
  socket := {
    datagramAdapter := FdAdapter.setListening (FdAdapter.setConfig adapter adapterCfg) true
    tcp := .new cfg isn }

end TcpThread

end Sponge
